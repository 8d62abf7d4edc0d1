import Macr.ProviderAdmission.Tables

/-!
# The control chain of a provider

A provider's control row is a projection of the last receipt of an append-only hash chain. Every
operation first validates the projection against that receipt, and every control change appends
one receipt and moves the projection to it.
-/

namespace Macr

open Lib

/-- `_deployment_binding_digest`; the runtime path is given by the digest of its normal form. -/
def deploymentBindingDigest (sha : Sha256) (runtimePathSha256 : Digest)
    (mode : AdmissionDeploymentMode) (policy : ProviderAdmissionPolicy) : Digest :=
  sha.sha256Id "provider_admission_deployment_v1" (.obj
    [("deployment_mode", .str mode.value),
      ("runtime_path_sha256", .hex runtimePathSha256),
      ("provider_id", .str policy.providerId),
      ("policy_digest", .hex (policy.policyDigest sha))])

/-- What identifies a constructed `ProviderAdmissionKernel`. -/
structure ProviderAdmissionKernel where
  /-- The digest of the normalised database path. -/
  runtimePathSha256 : Digest
  /-- The policy the kernel was constructed with. -/
  policy : ProviderAdmissionPolicy
  /-- Its deployment mode. -/
  deploymentMode : AdmissionDeploymentMode
deriving DecidableEq

/-- `ProviderAdmissionKernel.deployment_digest`, of a policy that may succeed the kernel's own. -/
def ProviderAdmissionKernel.deploymentDigest (sha : Sha256) (kernel : ProviderAdmissionKernel)
    (policy : ProviderAdmissionPolicy) : Digest :=
  deploymentBindingDigest sha kernel.runtimePathSha256 kernel.deploymentMode policy

namespace AdmissionTables

/-- The revisions of a provider's receipts. -/
def receiptRevisions (tables : AdmissionTables) (providerId : String) : List Nat :=
  (tables.transitions.rows.filter (fun row => row.providerId = providerId)).map (·.controlRevision)

/-- The receipt digest that a receipt of a given revision must name as its predecessor. -/
def expectedPrior (tables : AdmissionTables) (providerId : String) (revision : Nat) : Digest :=
  if 1 < revision then
    ((tables.transitions.find? (providerId, revision - 1)).map (·.bodySha256)).getD zeroDigest
  else
    zeroDigest

end AdmissionTables

/-- The control row is one the policy and deployment could have written. -/
def ControlRow.wellFormed (sha : Sha256) (policy : ProviderAdmissionPolicy)
    (mode : AdmissionDeploymentMode) (deploymentDigest : Digest) (state : ControlRow) : Bool :=
  state.policyDigest = policy.policyDigest sha ∧
    state.deploymentMode = mode ∧
    state.deploymentDigest = deploymentDigest ∧
    1 ≤ state.effectiveTarget ∧ state.effectiveTarget ≤ policy.hardMax ∧
    1 ≤ state.controlRevision ∧
    (state.circuitState = .halfOpen ↔ state.halfOpenProbeRequestDigest.isSome)

/-- The receipt a control row must project, taking from the stored row what the control row does
not repeat. -/
def ControlRow.expectedBody (policyDigest : Digest) (state : ControlRow)
    (transition : TransitionRow) : ControlBody where
  providerId := state.providerId
  policyDigest := policyDigest
  deploymentMode := state.deploymentMode
  deploymentDigest := state.deploymentDigest
  controlRevision := state.controlRevision
  priorControlDigest := transition.priorControlDigest
  transitionKind := transition.transitionKind
  effectiveTarget := state.effectiveTarget
  circuitState := state.circuitState
  halfOpenProbeRequestDigest := state.halfOpenProbeRequestDigest
  lastSignal := state.lastSignal
  authorityDigest := transition.authorityDigest
  bindingDigest := transition.bindingDigest
  requestId := transition.requestId
  evidenceDigest := transition.evidenceDigest
  createdAt := transition.createdAt

/-- `_validated_control_state`. -/
def validatedControlState (sha : Sha256) (tables : AdmissionTables)
    (policy : ProviderAdmissionPolicy) (mode : AdmissionDeploymentMode)
    (deploymentDigest : Digest) : Except MacrError ControlRow := do
  let state ← require ((tables.states.find? policy.providerId).filter
      (·.wellFormed sha policy mode deploymentDigest))
    (.providerAdmissionConflict "provider admission control state is invalid")
  let revisions := tables.receiptRevisions policy.providerId
  let transition ← require ((tables.transitions.find?
      (policy.providerId, state.controlRevision)).filter (fun _ =>
        revisions.length = state.controlRevision ∧ revisions.min? = some 1 ∧
          revisions.max? = some state.controlRevision))
    (.providerAdmissionConflict "provider admission control receipt sequence is invalid")
  raiseIf (transition.body ≠ state.expectedBody (policy.policyDigest sha) transition ∨
      sha.sha256 transition.body.toDict ≠ transition.bodySha256 ∨
      sha.sha256 transition.body.toDict ≠ state.controlDigest ∨
      transition.priorControlDigest ≠
        tables.expectedPrior policy.providerId state.controlRevision)
    (.providerAdmissionConflict "provider admission control projection does not match receipt")
  pure state

/-- A control row that passes validation: it is the stored projection of the last receipt of a
chain without gaps. -/
structure Validated (sha : Sha256) (tables : AdmissionTables) (policy : ProviderAdmissionPolicy)
    (mode : AdmissionDeploymentMode) (deploymentDigest : Digest) (state : ControlRow) : Prop where
  /-- It is the stored row. -/
  stored : state ∈ tables.states.rows
  /-- It is the policy's provider's row. -/
  provider : state.providerId = policy.providerId
  /-- It carries the policy and deployment. -/
  formed : state.wellFormed sha policy mode deploymentDigest = true
  /-- There are as many receipts as its revision says. -/
  count : (tables.receiptRevisions policy.providerId).length = state.controlRevision
  /-- The first receipt has revision one. -/
  minimum : (tables.receiptRevisions policy.providerId).min? = some 1
  /-- The last receipt has its revision. -/
  maximum : (tables.receiptRevisions policy.providerId).max? = some state.controlRevision
  /-- The last receipt is the one it projects. -/
  receipt : ∃ transition ∈ tables.transitions.rows,
    transition.key = (policy.providerId, state.controlRevision) ∧
    transition.body = state.expectedBody (policy.policyDigest sha) transition ∧
    sha.sha256 transition.body.toDict = transition.bodySha256 ∧
    sha.sha256 transition.body.toDict = state.controlDigest ∧
    transition.priorControlDigest = tables.expectedPrior policy.providerId state.controlRevision

/-- Validation answers with a row exactly when that row passes it. -/
theorem validatedControlState_eq_ok {sha : Sha256} {tables : AdmissionTables}
    {policy : ProviderAdmissionPolicy} {mode : AdmissionDeploymentMode}
    {deploymentDigest : Digest} {state : ControlRow} :
    validatedControlState sha tables policy mode deploymentDigest = .ok state ↔
      Validated sha tables policy mode deploymentDigest state := by
  simp only [validatedControlState, bind_eq_ok, raiseIf_eq_ok, require_eq_ok, pure_eq_ok,
    Option.filter_eq_some_iff, Table.find?_eq_some, decide_eq_true_eq, exists_const, not_or,
    ne_eq, not_not]
  constructor
  · rintro ⟨found, ⟨⟨stored, provider⟩, formed⟩, transition,
      ⟨⟨receipt, key⟩, count, minimum, maximum⟩, ⟨body, hashed, digest, prior⟩, rfl⟩
    exact ⟨stored, provider, formed, count, minimum, maximum,
      ⟨transition, receipt, key, body, hashed, digest, prior⟩⟩
  · rintro ⟨stored, provider, formed, count, minimum, maximum,
      ⟨transition, receipt, key, body, hashed, digest, prior⟩⟩
    exact ⟨state, ⟨⟨stored, provider⟩, formed⟩, transition,
      ⟨⟨receipt, key⟩, count, minimum, maximum⟩, ⟨body, hashed, digest, prior⟩, rfl⟩

namespace Validated

variable {sha : Sha256} {tables : AdmissionTables} {policy : ProviderAdmissionPolicy}
  {mode : AdmissionDeploymentMode} {deploymentDigest : Digest} {state : ControlRow}

/-- A validated row is under the policy. -/
theorem policyDigest (valid : Validated sha tables policy mode deploymentDigest state) :
    state.policyDigest = policy.policyDigest sha := by
  have formed := valid.formed
  simp only [ControlRow.wellFormed, decide_eq_true_eq] at formed
  exact formed.1

end Validated

/-- The keyword arguments of `_append_control_transition`. -/
structure ControlChange where
  /-- What happened. -/
  transitionKind : TransitionKind
  /-- The target after the transition. -/
  effectiveTarget : Nat
  /-- The circuit after the transition. -/
  circuitState : CircuitState
  /-- The half-open probe after the transition. -/
  halfOpenProbeRequestDigest : Option Digest := none
  /-- The signal. -/
  lastSignal : Signal
  /-- The authority it was made under. -/
  authorityDigest : Option Digest := none
  /-- The binding that named it. -/
  bindingDigest : Option Digest := none
  /-- The request it is about. -/
  requestId : Option Uuid := none
  /-- The evidence given. -/
  evidenceDigest : Option Digest := none
deriving DecidableEq

/-- The control change is one a policy allows: what a receipt's append checks of it. -/
structure ControlChange.Formed (policy : ProviderAdmissionPolicy) (change : ControlChange) :
    Prop where
  /-- The target is at least one. -/
  positive : 1 ≤ change.effectiveTarget
  /-- The target is within the policy. -/
  bounded : change.effectiveTarget ≤ policy.hardMax
  /-- A half-open circuit has one probe, and no other circuit has one. -/
  probe : change.circuitState = .halfOpen ↔ change.halfOpenProbeRequestDigest.isSome

namespace ProviderAdmissionKernel

variable (sha : Sha256) (kernel : ProviderAdmissionKernel)

/-- `ProviderAdmissionKernel._validated_state`. -/
def validatedState (tables : AdmissionTables) : Except MacrError ControlRow :=
  validatedControlState sha tables kernel.policy kernel.deploymentMode
    (kernel.deploymentDigest sha kernel.policy)

/-- The receipt of a control change that follows a control row, or starts a chain. -/
def nextBody (state : Option ControlRow) (change : ControlChange) (now : Timestamp)
    (activePolicy : ProviderAdmissionPolicy) : ControlBody where
  providerId := activePolicy.providerId
  policyDigest := activePolicy.policyDigest sha
  deploymentMode := kernel.deploymentMode
  deploymentDigest := kernel.deploymentDigest sha activePolicy
  controlRevision := match state with
    | none => 1
    | some state => state.controlRevision + 1
  priorControlDigest := match state with
    | none => zeroDigest
    | some state => state.controlDigest
  transitionKind := change.transitionKind
  effectiveTarget := change.effectiveTarget
  circuitState := change.circuitState
  halfOpenProbeRequestDigest := change.halfOpenProbeRequestDigest
  lastSignal := change.lastSignal
  authorityDigest := change.authorityDigest
  bindingDigest := change.bindingDigest
  requestId := change.requestId
  evidenceDigest := change.evidenceDigest
  createdAt := now

/-- The stored row of a receipt. -/
def receiptRow (body : ControlBody) : TransitionRow where
  providerId := body.providerId
  controlRevision := body.controlRevision
  priorControlDigest := body.priorControlDigest
  transitionKind := body.transitionKind
  authorityDigest := body.authorityDigest
  bindingDigest := body.bindingDigest
  requestId := body.requestId
  evidenceDigest := body.evidenceDigest
  body := body
  bodySha256 := sha.sha256 body.toDict
  createdAt := body.createdAt

/-- The control row of a chain's first receipt. -/
def firstProjection (body : ControlBody) : ControlRow where
  providerId := kernel.policy.providerId
  policyDigest := body.policyDigest
  deploymentMode := body.deploymentMode
  deploymentDigest := body.deploymentDigest
  effectiveTarget := body.effectiveTarget
  circuitState := body.circuitState
  grantSequence := 0
  lastGrantedLane := none
  halfOpenProbeRequestDigest := body.halfOpenProbeRequestDigest
  controlRevision := body.controlRevision
  controlDigest := sha.sha256 body.toDict
  lastSignal := body.lastSignal
  updatedAt := body.createdAt

/-- A control row moved to a later receipt; the grant columns stay. -/
def moveProjection (body : ControlBody) (row : ControlRow) : ControlRow :=
  { row with
    policyDigest := body.policyDigest
    deploymentMode := body.deploymentMode
    deploymentDigest := body.deploymentDigest
    effectiveTarget := body.effectiveTarget
    circuitState := body.circuitState
    halfOpenProbeRequestDigest := body.halfOpenProbeRequestDigest
    controlRevision := body.controlRevision
    controlDigest := sha.sha256 body.toDict
    lastSignal := body.lastSignal
    updatedAt := body.createdAt }

theorem moveProjection_providerId (body : ControlBody) (row : ControlRow) :
    (moveProjection sha body row).providerId = row.providerId := rfl

/-- The insertion of a receipt, whose place and digest are both unique. -/
def insertReceipt (tables : AdmissionTables) (body : ControlBody) :
    Except MacrError AdmissionTables := do
  raiseIf (∃ row ∈ tables.transitions.rows, row.bodySha256 = sha.sha256 body.toDict) .integrity
  let transitions ← require (tables.transitions.insert? (receiptRow sha body)) .integrity
  pure { tables with transitions := transitions }

/-- The write of the control row that follows a receipt's insertion. -/
def writeProjection (tables : AdmissionTables) (state : Option ControlRow) (body : ControlBody) :
    Except MacrError AdmissionTables :=
  match state with
  | none => do
    let states ← require (tables.states.insert? (kernel.firstProjection sha body)) .integrity
    pure { tables with states := states }
  | some state => do
    let condition := fun (row : ControlRow) =>
      decide (row.providerId = body.providerId ∧ row.controlRevision = state.controlRevision ∧
        row.controlDigest = state.controlDigest)
    raiseIf (tables.states.rows.countP condition ≠ 1)
      (.providerAdmissionConflict "provider admission control projection changed concurrently")
    pure { tables with
      states := tables.states.update condition (moveProjection sha body)
        (moveProjection_providerId sha body) }

/-- `ProviderAdmissionKernel._append_control_transition`. -/
def appendControlTransition (tables : AdmissionTables) (state : Option ControlRow)
    (change : ControlChange) (now : Timestamp) (activePolicy : ProviderAdmissionPolicy) :
    Except MacrError (AdmissionTables × ControlRow) := do
  raiseIf (¬(1 ≤ change.effectiveTarget ∧ change.effectiveTarget ≤ activePolicy.hardMax))
    (.providerAdmissionConflict "provider admission transition target is invalid")
  raiseIf (¬(change.circuitState = .halfOpen ↔ change.halfOpenProbeRequestDigest.isSome))
    (.providerAdmissionConflict "half-open control state requires one exact probe")
  let body := kernel.nextBody sha state change now activePolicy
  let tables ← insertReceipt sha tables body
  let tables ← kernel.writeProjection sha tables state body
  let state ← validatedControlState sha tables activePolicy kernel.deploymentMode
    (kernel.deploymentDigest sha activePolicy)
  pure (tables, state)

/-- The tables after a receipt is appended and its provider's projection moved to it. -/
structure Appended (before : AdmissionTables) (body : ControlBody) (after : AdmissionTables) :
    Prop where
  /-- The receipt is the last row of the chain. -/
  transitions : after.transitions.rows = before.transitions.rows ++ [receiptRow sha body]
  /-- The provider's control row projects it. -/
  states : after.states = before.states.update (fun row => row.providerId = body.providerId)
    (moveProjection sha body) (moveProjection_providerId sha body)
  /-- Policies stay. -/
  policies : after.policies = before.policies
  /-- Projects stay. -/
  projects : after.projects = before.projects
  /-- Requests stay. -/
  requests : after.requests = before.requests

variable {sha kernel}

/-- A control change that follows a control row appends its receipt, and the stored row it moves
has the revision it follows. -/
theorem appendControlTransition_eq_ok {tables : AdmissionTables} {state : ControlRow}
    {change : ControlChange} {now : Timestamp} {activePolicy : ProviderAdmissionPolicy}
    {result : AdmissionTables × ControlRow}
    (appended : kernel.appendControlTransition sha tables (some state) change now activePolicy =
      .ok result) :
    (∃ row ∈ tables.states.rows, row.providerId = activePolicy.providerId ∧
        row.controlRevision = state.controlRevision) ∧
      Appended sha tables (kernel.nextBody sha (some state) change now activePolicy) result.1 ∧
      change.Formed activePolicy ∧
      Validated sha result.1 activePolicy kernel.deploymentMode
        (kernel.deploymentDigest sha activePolicy) result.2 := by
  simp only [appendControlTransition, insertReceipt, writeProjection, bind_eq_ok, raiseIf_eq_ok,
    require_eq_ok, pure_eq_ok, validatedControlState_eq_ok, Table.insert?_eq_some, exists_const,
    not_not, ne_eq] at appended
  obtain ⟨target, probe, inserted, ⟨_, transitions, ⟨_, rfl⟩, rfl⟩, moved, ⟨one, rfl⟩, next, valid,
    rfl⟩ := appended
  have positive : 0 < tables.states.rows.countP _ := one ▸ Nat.one_pos
  obtain ⟨current, held, met⟩ := List.countP_pos_iff.mp positive
  obtain ⟨provider, revision, digest⟩ := of_decide_eq_true met
  have provider : current.providerId = activePolicy.providerId := provider
  refine ⟨⟨current, held, provider, revision⟩, ⟨rfl, ?_, rfl, rfl, rfl⟩,
    ⟨target.1, target.2, probe⟩, valid⟩
  apply Table.ext_rows
  apply List.map_congr_left
  intro row stored
  by_cases same : row.providerId = activePolicy.providerId
  · have equal := tables.states.eq_of_key stored held (same.trans provider.symm)
    subst equal
    simp [nextBody, same, revision, digest]
  · simp [nextBody, same]

/-- A control change that starts a chain stores its receipt and a first control row. -/
theorem appendControlTransition_genesis {tables : AdmissionTables} {change : ControlChange}
    {now : Timestamp} {result : AdmissionTables × ControlRow}
    (appended : kernel.appendControlTransition sha tables none change now kernel.policy =
      .ok result) :
    result.1.transitions.rows = tables.transitions.rows ++
        [receiptRow sha (kernel.nextBody sha none change now kernel.policy)] ∧
      result.1.states.rows = tables.states.rows ++
        [kernel.firstProjection sha (kernel.nextBody sha none change now kernel.policy)] ∧
      (result.1.policies = tables.policies ∧ result.1.projects = tables.projects ∧
        result.1.requests = tables.requests) ∧ change.Formed kernel.policy := by
  simp only [appendControlTransition, insertReceipt, writeProjection, bind_eq_ok, raiseIf_eq_ok,
    require_eq_ok, pure_eq_ok, Table.insert?_eq_some, exists_const, not_not] at appended
  obtain ⟨target, probe, inserted, ⟨_, transitions, ⟨_, rfl⟩, rfl⟩, started, ⟨states, ⟨_, rfl⟩, rfl⟩,
    next, _, rfl⟩ := appended
  exact ⟨rfl, rfl, ⟨rfl, rfl, rfl⟩, ⟨target.1, target.2, probe⟩⟩

end ProviderAdmissionKernel
end Macr
