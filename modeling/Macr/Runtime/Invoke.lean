import Macr.Accounting.Store
import Macr.DispatchLeases
import Macr.Lib.Raising
import Macr.ProviderAdmission.System
import Macr.Runtime.EventStore
import Macr.Runtime.Execution

/-!
# One invocation

`MacrRuntime.invoke`, from the checks before a dispatch to the return of the lease. Every call of a
store or of the admission kernel has a site; it may fail there before it has done anything, and
reads the clock that the site is given. What the registry and the provider answer is part of the
call. The local variables that the closing block reads are kept beside the databases.
-/

namespace Macr

open Lib ProviderAdmissionKernel

/-! ## The databases -/

/-- The databases and files an invocation works on. -/
structure RuntimeWorld where
  /-- The admission kernels, with the authorities and the fencing counter. -/
  admission : AdmissionSystem
  /-- `dispatch_leases`. -/
  leases : Table DispatchPermit.resourceKey
  /-- `runs` and `events`. -/
  log : EventLog
  /-- The candidate vault. -/
  vault : CandidateVault
  /-- The accounting database. -/
  accounting : AccountingDb

namespace RuntimeWorld

/-- New databases. -/
def initial : RuntimeWorld := ⟨.initial, .empty, .initial, .initial, .initial⟩

/-- The dispatch leases with the counter they draw from. -/
def leaseDb (world : RuntimeWorld) : DispatchLeaseDb :=
  ⟨world.admission.db.fencingCounter, world.leases⟩

/-- The world after a change of the admission tables. -/
def withDb (world : RuntimeWorld) (db : RuntimeDb) : RuntimeWorld :=
  { world with admission := { world.admission with db := db } }

/-- The world after a change of the leases. -/
def withLeaseDb (world : RuntimeWorld) (leases : DispatchLeaseDb) : RuntimeWorld :=
  { world.withDb { world.admission.db with fencingCounter := leases.fencingCounter } with
    leases := leases.leases }

end RuntimeWorld

/-! ## The call -/

/-- The calls an invocation makes, each at most once. -/
inductive CallSite where
  | verifyAuthority
  | acquireLease
  | verifyAgain
  | undoLease
  | tryAdmit
  | cancelWaiting
  | startRun
  | recordDispatch
  | beginTransport
  | captureFile
  | captureRow
  | recordObservation
  | recordTerminal
  | finishRun
  | readRequest
  | finishTransport
  | cancelUnused
  | closingRead
  | closingCancel
  | closingFinish
  | releaseLease
  | pregrantRead
  | pregrantCancel
deriving DecidableEq, Repr

/-- A `ProviderTierBinding`, as far as it is compared. -/
structure TierBinding where
  /-- The provider. -/
  providerId : String
  /-- Its digest. -/
  bindingDigest : Digest
deriving DecidableEq

/-- An exception of a provider. -/
structure ProviderRaise where
  /-- Its class. -/
  className : String
  /-- `safe_diagnostic()`, empty where there is none; it may itself raise. -/
  diagnostic : Except MacrError Payload

/-- What `invoke_observed` does: it may begin the transport of the permit it is handed, and then
returns or raises. -/
structure ProviderBehaviour where
  /-- It begins the transport. -/
  begins : Bool
  /-- What it ends in. -/
  outcome : Except ProviderRaise ProviderExecution
  /-- What it ends in when the start of the transport raises. -/
  refused : MacrError → Except ProviderRaise ProviderExecution
  /-- How long it takes. -/
  durationMs : Nat

/-- What the registry, its provider and the policy stores answer. -/
structure ProviderAnswers where
  /-- `validate_task_consistency`. -/
  taskConsistent : Except MacrError Unit
  /-- `registry.get`. -/
  registered : Except MacrError Unit
  /-- The token policy's digest behind its checks; none where no token policy is required. -/
  tokenPolicy : Except MacrError (Option Digest)
  /-- `safe_diagnostic()` of an output budget that is too small. -/
  budgetDiagnostic : Payload
  /-- `provider.capability_binding`. -/
  capabilityBinding : Option TierBinding
  /-- `capability_policies.effective_binding`, where there is such a store. -/
  effectiveBinding : Option (Except MacrError (Option TierBinding))
  /-- The tier digest in the metadata of `validate_approval`, where it can be called. -/
  approval : Option (Except MacrError (Option Digest))
  /-- `requires_provider_admission`. -/
  requiresAdmission : Bool
  /-- The kernels of `ProviderAdmissionDirectory`. -/
  directory : List ProviderAdmissionKernel
  /-- `provider.admission_guard is provider_admission`. -/
  guardIsKernel : Bool
  /-- `validate_admission_transport_binding`, where it can be called. -/
  transportBinding : Option (Except MacrError Unit)
  /-- `registry.requested_model`. -/
  requestedModel : Option String
  /-- `provider.invoke_observed`. -/
  behaviour : ProviderBehaviour

/-- `provider_admission_for`. -/
def ProviderAnswers.kernelFor (answers : ProviderAnswers) (providerId : String) :
    Option ProviderAdmissionKernel :=
  answers.directory.find? (fun kernel => kernel.policy.providerId = providerId)

/-- A call of `invoke` with its surroundings: the identifiers it draws, the clock and the failure
of each site. -/
structure Invocation where
  /-- The provider. -/
  providerId : String
  /-- The task. -/
  task : RuntimeTask
  /-- The context. -/
  context : RunContext
  /-- `provider_admission_permit`. -/
  permit : Option ProviderAdmissionPermit
  /-- `provider_admission_request`. -/
  request : Option ProviderAdmissionRequest
  /-- What is answered. -/
  answers : ProviderAnswers
  /-- The parsers. -/
  readers : AnswerReaders
  /-- The identifier of a new admission request. -/
  requestId : Uuid
  /-- The identifier of the dispatch event. -/
  dispatchEventId : Uuid
  /-- The identifier of the terminal event. -/
  terminalEventId : Uuid
  /-- The identifier of a new capture. -/
  captureId : Uuid
  /-- The identifier of the accounting copy. -/
  outboxId : Uuid
  /-- The clock readings of a site. -/
  clocks : CallSite → ClockReadings
  /-- The failure of a site. -/
  fault : CallSite → Option MacrError

/-- The databases, and the local variables that the closing block reads. -/
structure InvokeState where
  /-- The databases. -/
  world : RuntimeWorld
  /-- `provider_permit`. -/
  permit : Option ProviderAdmissionPermit
  /-- `execution`. -/
  execution : Option ProviderExecution
  /-- `provider_admission_finished`. -/
  finished : Bool

/-- A part of an invocation. -/
abbrev Invoking (α : Type) := Raising InvokeState MacrError α

/-! ## Results of refusals and failures -/

/-- `safe_diagnostic()` of an error raised before the network is used. -/
def MacrError.safeDiagnostic (error : MacrError) : Payload :=
  if error.isProviderAdmission ∨ error.className = "ProviderPreNetworkError" then
    [("network_attempted", .bool false), ("response_received", .bool false),
      ("provider_http_status", .null), ("provider_error_code", .null),
      ("transport_stage", .str "pre_network")]
  else []

/-- A refusal before dispatch. -/
def refusal (call : Invocation) (error : MacrError) (stage warning : String)
    (diagnostic : Payload) : Except MacrError ProviderResult :=
  failedResult call.task.taskId warning error.className stage
    ([("provider", .str call.providerId), ("failure_type", .str error.className),
      ("failure_stage", .str stage)] ++ diagnostic)

/-- `_admission_failure`. -/
def admissionFailure (call : Invocation) (error : MacrError) : Except MacrError ProviderResult :=
  refusal call error "admission" "Provider dispatch was refused before invocation."
    error.safeDiagnostic

/-- `_token_policy_failure`. -/
def tokenPolicyFailure (call : Invocation) (error : MacrError) : Except MacrError ProviderResult :=
  refusal call error "token_policy" "Provider model token policy refused the task."
    (if error.className = "ProviderOutputBudgetTooSmallError" then
      [("policy_violation", .obj call.answers.budgetDiagnostic)] else [])

/-- `_capability_policy_failure`. -/
def capabilityPolicyFailure (call : Invocation) : Except MacrError ProviderResult :=
  refusal call (.other "ProviderPolicyError") "provider_capability"
    "Provider capability policy refused the task." []

/-- `_provider_approval_failure`. -/
def providerApprovalFailure (call : Invocation) (error : MacrError) :
    Except MacrError ProviderResult :=
  refusal call error "provider_approval" "Provider approval refused the task before dispatch." []

/-- A value that has to be a boolean or missing. -/
def optionalBoolean : Option Json → Except MacrError (Option Bool)
  | none | some .null => .ok none
  | some (.bool value) => .ok (some value)
  | some _ => .error (.valueError "value must be a boolean or None")

/-- A value that has to be a natural number or missing. -/
def optionalCount : Option Json → Except MacrError (Option Nat)
  | none | some .null => .ok none
  | some (.int value) =>
    if 0 ≤ value then .ok (some value.toNat)
    else .error (.valueError "value must be an HTTP status or None")
  | some _ => .error (.valueError "value must be an HTTP status or None")

/-- A value that has to be a text or missing. -/
def optionalText : Option Json → Except MacrError (Option String)
  | none | some .null => .ok none
  | some (.str value) => .ok (some value)
  | some _ => .error (.valueError "value must be a bounded identifier or None")

/-- The transport part of a diagnostic, checked. -/
def diagnosedTransport (diagnostic : Payload) :
    Except MacrError { transport : TransportObservation // transport.WellFormed } := do
  let networkAttempted ← optionalBoolean (diagnostic.get "network_attempted")
  let responseReceived ← optionalBoolean (diagnostic.get "response_received")
  let providerHttpStatus ← optionalCount (diagnostic.get "provider_http_status")
  let providerErrorCode ← optionalText (diagnostic.get "provider_error_code")
  let transportStage ← optionalText (diagnostic.get "transport_stage")
  let transport : TransportObservation := ⟨networkAttempted, responseReceived, providerHttpStatus,
    providerErrorCode, transportStage⟩
  if formed : transport.WellFormed then pure ⟨transport, formed⟩
  else .error (.valueError "provider telemetry is inconsistent")

/-- The diagnostic of an error that used no network, but for its stage. -/
def preNetwork (diagnostic : Payload) : Payload :=
  [("network_attempted", .bool false), ("response_received", .bool false),
    ("transport_stage", (diagnostic.get "transport_stage").getD .null)]

/-- `_failed_provider_observation`: a diagnostic that does not pass the checks is left out. -/
def failedProviderObservation (providerId : String) (diagnostic : Payload) (durationMs : Nat) :
    ProviderObservation :=
  let local_ : Bool := diagnostic.get "network_attempted" = some (.bool false)
  match diagnosedTransport (if local_ then preNetwork diagnostic else diagnostic) with
  | .ok transport =>
    unansweredObservation providerId (some durationMs) transport.1 transport.2 local_
  | .error _ =>
    unansweredObservation providerId (some durationMs) ⟨none, none, none, none, none⟩
      TransportObservation.wellFormed_default false

/-- `_post_dispatch_failure`. -/
def postDispatchFailure (call : Invocation) (raised : ProviderRaise)
    (observation : ProviderObservation) : Except MacrError ProviderResult :=
  failedResult call.task.taskId
    s!"Provider execution failed after dispatch ({raised.className}); exception details were omitted."
    raised.className "provider_execution"
    [("provider", .str call.providerId), ("failure_type", .str raised.className),
      ("failure_stage", .str "provider_execution"),
      ("metrics", .obj [("duration_ms", .optNat observation.durationMs)]),
      ("network_attempted", .optBool observation.networkAttempted),
      ("response_received", .optBool observation.responseReceived),
      ("provider_http_status", .optNat observation.providerHttpStatus),
      ("provider_error_code", .optStr observation.providerErrorCode),
      ("transport_stage", .optStr observation.transportStage)]

/-- The execution an exception of the provider is recorded as. -/
def failedExecution (call : Invocation) (raised : ProviderRaise) :
    Except MacrError ProviderExecution := do
  let diagnostic ← raised.diagnostic
  let observation :=
    failedProviderObservation call.providerId diagnostic call.answers.behaviour.durationMs
  let result ← postDispatchFailure call raised observation
  pure (.fromObservation observation result)

/-! ## Before dispatch -/

/-- What the checks before dispatch end in, when they do not raise. -/
inductive Preflight where
  /-- The call returns a refusal. -/
  | refused (result : ProviderResult)
  /-- The call goes on under a context. -/
  | passed (context : RunContext)

/-- A refusal as the end of the checks. -/
def refuse (result : Except MacrError ProviderResult) : Except MacrError Preflight :=
  result.map .refused

/-- The check of the provider's capability binding. -/
def capabilityRefused (call : Invocation) (context : RunContext) : Except MacrError Bool := do
  let stale ← match call.answers.capabilityBinding, call.answers.effectiveBinding with
    | some binding, some (.ok active) => pure (decide (active ≠ some binding))
    | some _, some (.error error) =>
      if error.isMacrError ∨ error.className = "ValueError" then pure true else .error error
    | _, _ => pure false
  if stale then pure true
  else
    match call.answers.capabilityBinding, context.providerTierBindingDigest with
    | none, none => pure false
    | none, some _ => pure true
    | some binding, digest =>
      pure (decide (binding.providerId ≠ call.providerId ∨ digest ≠ some binding.bindingDigest))

/-- The check of the provider's approval, with the refusal of a `MacrError`. -/
def approvalRefused (call : Invocation) : Except MacrError (Option MacrError) :=
  match call.answers.approval with
  | none => .ok none
  | some (.error error) => if error.isMacrError then .ok (some error) else .error error
  | some (.ok digest) =>
    match call.answers.capabilityBinding with
    | some binding =>
      if digest ≠ some binding.bindingDigest then .ok (some (.other "ProviderPolicyError"))
      else .ok none
    | none => .ok none

/-- The checks of the admission identity and of the transport binding. -/
def admissionRefused (sha : Sha256) (call : Invocation) (context : RunContext) :
    Except MacrError (Option MacrError) := do
  if call.answers.requiresAdmission then
    match call.answers.kernelFor call.providerId with
    | none => pure (some (.providerAdmissionRequired
        "provider admission identity or policy is missing"))
    | some kernel =>
      if call.answers.guardIsKernel = false ∨ context.projectBindingDigest = none ∨
          context.admissionLane = none ∨
          context.providerAdmissionPolicyDigest ≠ some (kernel.policy.policyDigest sha) then
        pure (some (.providerAdmissionRequired
          "provider admission identity or policy is missing"))
      else
        match call.answers.transportBinding with
        | none => pure (some (.providerAdmissionRequired
            "provider has no admission transport binding"))
        | some (.error error) =>
          if error.isMacrError then pure (some error) else .error error
        | some (.ok ()) => pure none
  else pure none

/-- The checks of `_invoke_owned` before it asks for the lease. -/
def preflight (sha : Sha256) (call : Invocation) : Except MacrError Preflight := do
  call.answers.taskConsistent
  call.answers.registered
  match call.answers.tokenPolicy with
  | .error error =>
    if error.isProviderPolicy then refuse (tokenPolicyFailure call error) else .error error
  | .ok digest =>
    let context : RunContext := match digest with
      | some digest => { call.context with modelTokenPolicyDigest := some digest }
      | none => call.context
    if ← capabilityRefused call context then refuse (capabilityPolicyFailure call)
    else
      match ← approvalRefused call with
      | some error => refuse (providerApprovalFailure call error)
      | none =>
        match ← admissionRefused sha call context with
        | some error => refuse (admissionFailure call error)
        | none =>
          if call.permit.isNone ≠ call.request.isNone then
            refuse (admissionFailure call (.providerAdmissionRequired
              "provider admission permit and request must be supplied together"))
          else pure (.passed context)

/-- `dispatch_resource_key`. -/
def dispatchResourceKey (providerId : String) (task : RuntimeTask) : String :=
  if task.writeScope ≠ [] then s!"workspace-write:{hexText 64 task.repoDigest}"
  else s!"provider:{providerId}:task:{task.taskId}"

/-- The seconds a lease and a grant are asked for. -/
def leaseSeconds (task : RuntimeTask) : Int := max 1 (min 86400 (task.maxLatencyS + 60))

/-- What the gate asks of the context's authority. -/
def dispatchUse (call : Invocation) (context : RunContext) : AuthorityUse where
  providerId := call.providerId
  plane := context.plane.value
  taskType := call.task.taskType
  batchId := context.batchId
  memberDigest := context.memberDigest
  providerTierBindingDigest := context.providerTierBindingDigest
  projectBindingDigest := context.projectBindingDigest
  admissionLane := context.admissionLane
  providerAdmissionPolicyDigest := context.providerAdmissionPolicyDigest

/-! ## Calls of the stores -/

section Calls

variable (sha : Sha256) (call : Invocation)

/-- A read or a check that changes nothing. -/
def inspect {α : Type} (site : CallSite) (body : RuntimeWorld → Except MacrError α) : Invoking α :=
  .transact (call.fault site) (fun state => (body state.world).map (fun value => (state, .ok value)))

/-- A transaction on the dispatch leases. -/
def onLeases {α : Type} (site : CallSite)
    (body : DispatchLeaseDb → Except MacrError (Committed DispatchLeaseDb α)) : Invoking α :=
  .transact (call.fault site) (fun state => (body state.world.leaseDb).map
    (fun done => ({ state with world := state.world.withLeaseDb done.1 }, done.2)))

/-- A transaction on the event log. -/
def onLog {α : Type} (site : CallSite)
    (body : EventLog → Except MacrError (Committed EventLog α)) : Invoking α :=
  .transact (call.fault site) (fun state => (body state.world.log).map
    (fun done => ({ state with world := { state.world with log := done.1 } }, done.2)))

/-- A step on the vault. -/
def onVault {α : Type} (site : CallSite)
    (body : CandidateVault → Except MacrError (Committed CandidateVault α)) : Invoking α :=
  .transact (call.fault site) (fun state => (body state.world.vault).map
    (fun done => ({ state with world := { state.world with vault := done.1 } }, done.2)))

/-- A transaction on the accounting database. -/
def onAccounting {α : Type} (site : CallSite)
    (body : AccountingDb → Except MacrError (Committed AccountingDb α)) : Invoking α :=
  .transact (call.fault site) (fun state => (body state.world.accounting).map
    (fun done => ({ state with world := { state.world with accounting := done.1 } }, done.2)))

/-- A call of an admission kernel: its checks, then its transaction. -/
def onKernel (site : CallSite) (kernel : ProviderAdmissionKernel) (asked : KernelCall) :
    Invoking CallResult :=
  .transact (call.fault site) (fun state => do
    kernel.prepare sha state.world.admission.db (call.clocks site) asked
    let done ← kernel.transact sha state.world.admission.db (call.clocks site) asked
    pure ({ state with world := state.world.withDb done.1 }, done.2))

/-- `read_request`, as far as its state. -/
def readRequestState (site : CallSite) (requestId : Uuid) : Invoking RequestState :=
  inspect call site (fun world =>
    (require (world.admission.db.admission.requests.find? requestId)
      (.providerAdmissionConflict "provider admission request does not exist")).map (·.state))

end Calls

/-! ## The lease -/

/-- `authorities.verify` of the gate. -/
def verifyDispatch (sha : Sha256) (call : Invocation) (context : RunContext) (site : CallSite) :
    Invoking Unit :=
  inspect call site (fun world => do
    let _ ← world.admission.db.authority.verify sha (call.clocks site).authority
      context.authorization (dispatchUse call context)
    pure ())

/-- `DispatcherLeaseStore.release` of a permit. -/
def releaseDispatch (call : Invocation) (site : CallSite) (permit : DispatchPermit) :
    Invoking Unit := do
  let _ ← onLeases call site (fun leases =>
    leases.release permit.resourceKey permit.runId permit.fencingToken)
  pure ()

/-- `AdmissionGate.admit`. -/
def admitDispatch (sha : Sha256) (call : Invocation) (context : RunContext) :
    Invoking DispatchPermit := do
  verifyDispatch sha call context .verifyAuthority
  let permit ← onLeases call .acquireLease (fun leases =>
    leases.acquire (dispatchResourceKey call.providerId call.task) context.runId
      (leaseSeconds call.task) (call.clocks .acquireLease).kernel)
  Raising.handle (verifyDispatch sha call context .verifyAgain) (fun error => do
    match error with
    | .dispatchAuthorization _ => releaseDispatch call .undoLease permit
    | _ => pure ()
    .raise error)
  pure permit

/-! ## The provider's admission -/

/-- `build_provider_admission_request`. -/
def buildAdmissionRequest (call : Invocation) (context : RunContext) (requestId : Uuid) :
    Except MacrError ProviderAdmissionRequest := do
  let missing := MacrError.providerAdmissionRequired "provider admission identity is missing"
  let project ← require context.projectBindingDigest missing
  let lane ← require context.admissionLane missing
  pure
    { requestId := requestId
      providerId := call.providerId
      projectBindingDigest := project
      lane := lane
      runId := context.runId
      authorization := context.authorization
      plane := context.plane.value
      taskType := call.task.taskType
      taskDigest := call.task.digest
      memberDigest := context.memberDigest
      batchId := context.batchId
      providerTierBindingDigest := context.providerTierBindingDigest }

/-- `try_admit` of a new request; a busy provider is no longer waited for. -/
def admitNew (sha : Sha256) (call : Invocation) (kernel : ProviderAdmissionKernel)
    (request : ProviderAdmissionRequest) : Invoking ProviderAdmissionPermit := do
  let result ← Raising.handle
    (onKernel sha call .tryAdmit kernel (.tryAdmit request (leaseSeconds call.task).toNat))
    (fun error => do
      match error with
      | .providerAdmissionBusy _ =>
        let _ ← onKernel sha call .cancelWaiting kernel
          (.cancelWaiting request.requestId request.runId)
      | _ => pure ()
      .raise error)
  match result with
  | .permit permit => pure permit
  | _ => .raise .assertionError

/-- The request and the permit of a provider that requires admission. -/
def obtainAdmission (sha : Sha256) (call : Invocation) (context : RunContext) :
    Invoking (Option ProviderAdmissionRequest) := do
  if call.answers.requiresAdmission then
    let kernel ← .lift (require (call.answers.kernelFor call.providerId) .assertionError)
    match call.request with
    | none =>
      let request ← .lift (buildAdmissionRequest call context call.requestId)
      let permit ← admitNew sha call kernel request
      .modify (fun state => { state with permit := some permit })
      pure (some request)
    | some request =>
      let expected ← .lift (buildAdmissionRequest call context request.requestId)
      if expected ≠ request then
        .raise (.providerAdmissionConflict "pre-granted provider admission request is stale")
      else pure (some request)
  else pure call.request

/-! ## Dispatch and its record -/

/-- `_dispatch_payload`. -/
def dispatchPayload (sha : Sha256) (call : Invocation) (context : RunContext)
    (fencingToken : Nat) : Payload :=
  [("dispatch_contract_version", .int 3), ("provider_id", .str call.providerId),
    ("task_id", .str call.task.taskId), ("task_type", .str call.task.taskType),
    ("interaction_plane", .str context.plane.value), ("origin_host", .str context.origin.host),
    ("origin_identifier_kind", .str context.origin.identifierKind),
    ("origin_native_id", .str context.origin.nativeId),
    ("authority_source_kind", .str context.authorization.sourceKind),
    ("authority_source_id", .str context.authorization.sourceId),
    ("authority_digest", .hex context.authorization.digest),
    ("authority_revision", .int context.authorization.revision),
    ("authority_epoch", .int context.authorization.epoch),
    ("authority_scope_sha256", .hex (sha.sha256 context.authorization.scope.toDict)),
    ("policy_snapshot_sha256", .hex context.policySnapshotSha256),
    ("model_token_policy_digest", .optHex context.modelTokenPolicyDigest),
    ("provider_tier_binding_digest", .optHex context.providerTierBindingDigest),
    ("project_binding_digest", .optHex context.projectBindingDigest),
    ("admission_lane", .optStr (context.admissionLane.map AdmissionLane.value)),
    ("provider_admission_policy_digest", .optHex context.providerAdmissionPolicyDigest),
    ("batch_id", .optStr context.batchId), ("member_digest", .optHex context.memberDigest),
    ("relay_is_authorship", .bool false), ("fencing_token", .int fencingToken),
    ("plan_digest", .optHex context.planDigest), ("plan_revision", .optNat context.planRevision),
    ("role_slot_id", .optStr context.roleSlotId), ("route_id", .optHex context.routeId)]

/-- The dispatch in the event log and in accounting. -/
def recordDispatches (sha : Sha256) (call : Invocation) (context : RunContext)
    (fencingToken : Nat) : Invoking Unit := do
  onLog call .startRun (fun log => log.startRun (call.clocks .startRun).kernel context.runId
    call.dispatchEventId (dispatchPayload sha call context fencingToken))
  let _ ← onAccounting call .recordDispatch (fun accounting => accounting.recordDispatch
    (call.clocks .recordDispatch).kernel context.runId context.toDispatchContext call.providerId
    call.answers.requestedModel none false)
  pure ()

/-- The start of the transport by the provider, whose error the provider sees. -/
def startTransport (sha : Sha256) (call : Invocation) (request : Option ProviderAdmissionRequest)
    (permit : Option ProviderAdmissionPermit) : Invoking (Except ProviderRaise ProviderExecution) :=
  let behaviour := call.answers.behaviour
  match call.answers.kernelFor call.providerId, request, permit with
  | some kernel, some request, some permit =>
    if call.answers.requiresAdmission ∧ behaviour.begins then
      Raising.handle
        (do
          let _ ← onKernel sha call .beginTransport kernel (.beginTransport permit request)
          pure behaviour.outcome)
        (fun error => pure (behaviour.refused error))
    else pure behaviour.outcome
  | _, _, _ => pure behaviour.outcome

/-- The part of `_invoke_owned` under the lease, up to what the provider ends in. -/
def dispatchPart (sha : Sha256) (call : Invocation) (context : RunContext) (fencingToken : Nat) :
    Invoking (Except ProviderRaise ProviderExecution) := do
  let request ← obtainAdmission sha call context
  recordDispatches sha call context fencingToken
  let permit ← .read InvokeState.permit
  startTransport sha call request permit

/-- The provider's execution, or the one its exception is recorded as. -/
def observeOutcome (call : Invocation) (outcome : Except ProviderRaise ProviderExecution) :
    Invoking ProviderExecution := do
  let execution ← match outcome with
    | .ok execution => pure execution
    | .error raised => .lift (failedExecution call raised)
  .modify (fun state => { state with execution := some execution })
  pure execution

/-! ## The outcome and its record -/

/-- `_billing_state`. -/
def billingState (observation : ProviderObservation) : String :=
  observation.toRawProviderObservation.billingState.value

/-- The integers that `sqlite3` binds. -/
def bindable (value : Option Nat) : Bool := value.all (fun value => value < 2 ^ 63)

/-- Every count of an observation can be bound. -/
def countsBindable (observation : ProviderObservation) : Bool :=
  bindable observation.usage.inputTokens && bindable observation.usage.outputTokens &&
    bindable observation.usage.reasoningTokens && bindable observation.usage.cachedTokens &&
    bindable observation.durationMs

/-- `record_observation`, whose parameters have to be bound. -/
def recordObservationBound (accounting : AccountingDb) (runId : Uuid)
    (observation : ProviderObservation) : Except MacrError (Committed AccountingDb Unit) := do
  let done ← accounting.recordObservation runId observation.toRawProviderObservation
  raiseIf (countsBindable observation = false) (.other "OverflowError")
  pure done

/-- `_capture_candidate`. -/
def captureCandidate (hashes : Hashes) (call : Invocation) (context : RunContext)
    (execution : ProviderExecution) : Invoking (Option CaptureRow) :=
  match execution.observation.answerBytes with
  | none => pure none
  | some answer => do
    onVault call .captureFile (fun vault => vault.writeOnce call.providerId context.runId answer)
    let capture ← onVault call .captureRow (fun vault => vault.recordCapture
      { captureId := call.captureId
        runId := context.runId
        providerId := call.providerId
        sha256 := hashes.bytes answer
        byteCount := answer.length
        taskDigest := call.task.digest
        approvalDigest := call.task.delegationApprovalSha256
        capturedAt := (call.clocks .captureRow).kernel })
    pure (some capture)

/-- The result of an answer that breaks its contract. -/
def rejectedResult (result : ProviderResult) (reason : String) : ProviderResult :=
  { result with
    status := .candidateFailure
    answer := ""
    warnings := result.warnings ++ [s!"Return contract rejected the candidate: {reason}."]
    providerMeta := result.providerMeta.set "failure_type" (.str "ReturnContractError")
    failureCode := some "ReturnContractError"
    failureStage := some "return_contract"
    failure_together := rfl
    failureCode_valid := by simp [show isFailureId "ReturnContractError" = true by decide]
    failureStage_valid := by simp [show isFailureId "return_contract" = true by decide] }

/-- `_validate_candidate_return`. -/
def validateCandidateReturn (call : Invocation) (execution : ProviderExecution) :
    Except MacrError (ProviderExecution × Option String) :=
  if execution.result.status ≠ .candidateSuccess then .ok (execution, none)
  else do
    let validation ← validateReturnContract call.readers call.task execution.result.answer
    let result :=
      if validation.state = .invalid then rejectedResult execution.result validation.reasonCode
      else execution.result
    pure ({ execution with result := result, returnContractState := validation.state },
      some validation.reasonCode)

/-- `CandidateCapture.to_public_dict`. -/
def CaptureRow.toPublicDict (capture : CaptureRow) : Json :=
  .obj [("capture_id", .hex capture.captureId), ("run_id", .hex capture.runId),
    ("provider_id", .str capture.providerId), ("answer_sha256", .hex capture.sha256),
    ("answer_bytes", .int capture.byteCount), ("task_digest", .hex capture.taskDigest),
    ("approval_digest", .optHex capture.approvalDigest), ("captured_at", .time capture.capturedAt)]

/-- `safe_count` of a metric. -/
def safeCount (metrics : Payload) (name : String) : Json :=
  match metrics.get name with
  | some (.int value) => if 0 ≤ value then .int value else .null
  | _ => .null

/-- The failure type of a terminal. -/
def failureType (result : ProviderResult) : Json :=
  match result.failureCode with
  | some code => .str code
  | none => (result.providerMeta.get "failure_type").getD .null

/-- `_terminal_payload`. -/
def terminalPayload (call : Invocation) (context : RunContext) (execution : ProviderExecution)
    (capture : Option CaptureRow) (returnReason : Option String) : Payload :=
  let observation := execution.observation
  let metrics := execution.result.providerMeta.mapping "metrics"
  [("terminal_contract_version", .int 4), ("provider_id", .str call.providerId),
    ("task_id", .str call.task.taskId), ("dispatch_event_id", .hex call.dispatchEventId),
    ("status", .str execution.result.status.value), ("model", .optStr observation.model),
    ("response_id", .optStr observation.responseId),
    ("finish_reason", .optStr observation.finishReason),
    ("provider_state", .str observation.providerState.value),
    ("input_tokens", .optNat observation.usage.inputTokens),
    ("output_tokens", .optNat observation.usage.outputTokens),
    ("reasoning_tokens", .optNat observation.usage.reasoningTokens),
    ("cached_tokens", .optNat observation.usage.cachedTokens),
    ("currency_cost_usd", .optNum observation.currencyCostUsd),
    ("cost_kind", .optStr observation.costKind),
    ("pricing_basis_version", .optStr observation.pricingBasisVersion),
    ("duration_ms", .optNat observation.durationMs),
    ("network_attempted", .optBool observation.networkAttempted),
    ("response_received", .optBool observation.responseReceived),
    ("provider_http_status", .optNat observation.providerHttpStatus),
    ("provider_error_code", .optStr observation.providerErrorCode),
    ("transport_stage", .optStr observation.transportStage),
    ("input_media_count", safeCount metrics "input_media_count"),
    ("input_media_bytes", safeCount metrics "input_media_bytes"),
    ("output_artifact_count", safeCount metrics "output_artifact_count"),
    ("output_artifact_bytes", safeCount metrics "output_artifact_bytes"),
    ("billing_state", .str (billingState observation)),
    ("capture_state", .str execution.captureState.value),
    ("candidate_capture", (capture.map CaptureRow.toPublicDict).getD .null),
    ("return_contract_state", .str execution.returnContractState.value),
    ("return_contract_reason", .optStr returnReason),
    ("failure_type", failureType execution.result),
    ("failure_stage", .optStr execution.result.failureStage),
    ("authority_digest", .hex context.authorization.digest),
    ("authority_revision", .int context.authorization.revision),
    ("authority_epoch", .int context.authorization.epoch),
    ("plan_digest", .optHex context.planDigest), ("plan_revision", .optNat context.planRevision),
    ("role_slot_id", .optStr context.roleSlotId), ("route_id", .optHex context.routeId),
    ("provider_tier_binding_digest", .optHex context.providerTierBindingDigest),
    ("project_binding_digest", .optHex context.projectBindingDigest),
    ("admission_lane", .optStr (context.admissionLane.map AdmissionLane.value)),
    ("provider_admission_policy_digest", .optHex context.providerAdmissionPolicyDigest)]

/-- The record of an execution, from the capture to the terminal event: the execution as it was
validated, and the terminal payload. -/
def recordOutcome (kernel : AccountingKernel) (hashes : Hashes) (call : Invocation)
    (context : RunContext) (execution : ProviderExecution) :
    Invoking (ProviderExecution × Payload) := do
  let capture ← captureCandidate hashes call context execution
  onAccounting call .recordObservation (fun accounting =>
    recordObservationBound accounting context.runId execution.observation)
  let (execution, returnReason) ← .lift (validateCandidateReturn call execution)
  .modify (fun state => { state with execution := some execution })
  onAccounting call .recordTerminal (fun accounting => accounting.recordTerminal kernel
    (call.clocks .recordTerminal).kernel context.runId execution.result.status.value
    (billingState execution.observation) execution.result.failureCode
    execution.result.failureStage call.outboxId)
  let payload := terminalPayload call context execution capture returnReason
  onLog call .finishRun (fun log => log.finishRun (call.clocks .finishRun).kernel context.runId
    call.terminalEventId execution.result.status.value payload)
  pure (execution, payload)

/-! ## The end of the admission and of the lease -/

/-- The report of a transport. -/
def transportReport (observation : Option ProviderObservation) (terminalPersisted : Bool)
    (evidence : Digest) : TransportReport where
  networkAttempted := observation.bind (·.networkAttempted)
  responseReceived := observation.bind (·.responseReceived)
  providerHttpStatus := observation.bind (·.providerHttpStatus)
  terminalPersisted := terminalPersisted
  terminalEvidenceDigest := evidence

/-- What becomes of the permit after the terminal event. -/
def settlePermit (sha : Sha256) (call : Invocation) (permit : ProviderAdmissionPermit)
    (observation : ProviderObservation) (payload : Payload) : Invoking Unit := do
  let kernel ← .lift (require (call.answers.kernelFor call.providerId) .assertionError)
  let stored ← readRequestState call .readRequest permit.requestId
  if stored = .dispatched then
    let _ ← onKernel sha call .finishTransport kernel (.finish permit
      (transportReport (some observation) true (sha.sha256 (.obj payload))))
  else if stored = .granted ∧ observation.networkAttempted = some false then
    let _ ← onKernel sha call .cancelUnused kernel (.cancelBeforeTransport permit)
  else if ¬((stored = .cancelled ∨ stored = .reconciliationRequired) ∧
      observation.networkAttempted = some false) then
    .raise (.providerAdmissionConflict "provider admission terminal state is inconsistent")
  .modify (fun state => { state with finished := true })

/-- The closing of an admission that was not finished. -/
def closeAdmission (sha : Sha256) (call : Invocation) (context : RunContext) : Invoking Unit := do
  let permit ← .read InvokeState.permit
  let finished ← .read InvokeState.finished
  match permit, call.answers.kernelFor call.providerId with
  | some permit, some kernel =>
    if finished then pure ()
    else
      Raising.handle
        (do
          let stored ← readRequestState call .closingRead permit.requestId
          if stored = .granted then
            let _ ← onKernel sha call .closingCancel kernel (.cancelBeforeTransport permit)
          else if stored = .dispatched then
            let execution ← .read InvokeState.execution
            let _ ← onKernel sha call .closingFinish kernel (.finish permit
              (transportReport (execution.map (·.observation)) false
                (sha.sha256 (.obj [("run_id", .hex context.runId),
                  ("state", .str "terminal_persistence_incomplete")]))))
          else pure ())
        (fun _ => pure ())
  | _, _ => pure ()

/-- The part of `_invoke_owned` after the provider's outcome. -/
def afterProvider (kernel : AccountingKernel) (hashes : Hashes) (call : Invocation)
    (context : RunContext) (outcome : Except ProviderRaise ProviderExecution) :
    Invoking ProviderResult := do
  let execution ← observeOutcome call outcome
  let (execution, payload) ← recordOutcome kernel hashes call context execution
  let permit ← .read InvokeState.permit
  match permit with
  | some permit => settlePermit kernel.sha call permit execution.observation payload
  | none => pure ()
  pure execution.result

/-- What is done under the lease. -/
def dispatched (kernel : AccountingKernel) (hashes : Hashes) (call : Invocation)
    (context : RunContext) (fencingToken : Nat) : Invoking ProviderResult := do
  let outcome ← dispatchPart kernel.sha call context fencingToken
  afterProvider kernel hashes call context outcome

/-- The closing block. -/
def closing (sha : Sha256) (call : Invocation) (context : RunContext) (permit : DispatchPermit) :
    Invoking Unit := do
  closeAdmission sha call context
  releaseDispatch call .releaseLease permit

/-! ## The invocation -/

/-- `_invoke_owned`. -/
def invokeOwned (kernel : AccountingKernel) (hashes : Hashes) (call : Invocation) :
    Invoking ProviderResult := do
  match ← .lift (preflight kernel.sha call) with
  | .refused result => pure result
  | .passed context =>
    let admitted ← Raising.handle
      (do
        let permit ← admitDispatch kernel.sha call context
        pure (Sum.inl permit))
      (fun error => do
        if error.isMacrError then
          let result ← .lift (admissionFailure call error)
          pure (Sum.inr result)
        else .raise error)
    match admitted with
    | .inr result => pure result
    | .inl permit =>
      Raising.ensuring (dispatched kernel hashes call context permit.fencingToken)
        (closing kernel.sha call context permit)

/-- `_cleanup_unused_pregrant`. -/
def cleanupUnusedPregrant (sha : Sha256) (call : Invocation) : Invoking Unit :=
  match call.permit with
  | none => pure ()
  | some permit =>
    match call.answers.kernelFor permit.providerId with
    | none => .raise (.providerAdmissionRequired
        "pre-granted provider admission has no shared kernel")
    | some kernel => do
      let stored ← readRequestState call .pregrantRead permit.requestId
      if stored = .granted then
        let _ ← onKernel sha call .pregrantCancel kernel (.cancelBeforeTransport permit)
      else pure ()

/-- `MacrRuntime.invoke` over the databases and its local variables. -/
def invokeBody (kernel : AccountingKernel) (hashes : Hashes) (call : Invocation) :
    Invoking ProviderResult := do
  let result ← Raising.handle (invokeOwned kernel hashes call) (fun error => do
    Raising.handle (cleanupUnusedPregrant kernel.sha call) (fun _ => .raise error)
    .raise error)
  cleanupUnusedPregrant kernel.sha call
  pure result

/-- `MacrRuntime.invoke`. -/
def invoke (kernel : AccountingKernel) (hashes : Hashes) (call : Invocation) :
    Raising RuntimeWorld MacrError ProviderResult := fun world =>
  let (outcome, left) := invokeBody kernel hashes call ⟨world, call.permit, none, false⟩
  (outcome, left.world)

end Macr
