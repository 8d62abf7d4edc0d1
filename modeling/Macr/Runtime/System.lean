import Macr.ProviderAdmission.Endings
import Macr.Runtime.Invoke

/-!
# What an invocation keeps

A relation between worlds that every call of a store and of a kernel keeps is kept by every part of
an invocation, whatever fails. The rules are stated once for the kernel calls, once more for the
calls of the stores and once for the leases.
-/

namespace Macr

open Lib ProviderAdmissionKernel Raising

/-! ## Calls that return -/

section Returns

variable {call : Invocation} {site : CallSite} {state left : InvokeState} {α : Type} {value : α}

/-- A transaction whose committed states are placed in the state returns when it commits. -/
theorem transact_map_eq_ok {σ : Type} {fault : Option MacrError}
    {body : InvokeState → Except MacrError (Committed σ α)} {place : InvokeState → σ → InvokeState} :
    Raising.transact fault (fun state => (body state).map
        (fun done => (place state done.1, done.2))) state = (.ok value, left) ↔
      fault = none ∧ ∃ reached, body state = .ok (reached, .ok value) ∧ left = place state reached := by
  rw [Raising.transact_eq_ok, except_map_eq_ok]
  constructor
  · rintro ⟨clear, ⟨reached, outcome⟩, done, same⟩
    obtain ⟨rfl, rfl⟩ := Prod.mk.inj same
    exact ⟨clear, reached, done, rfl⟩
  · rintro ⟨clear, reached, done, rfl⟩
    exact ⟨clear, _, done, rfl⟩

/-- A call of a store returns when its transaction commits. -/
theorem onLog_eq_ok {body : EventLog → Except MacrError (Committed EventLog α)} :
    onLog call site body state = (.ok value, left) ↔ call.fault site = none ∧
      ∃ reached, body state.world.log = .ok (reached, .ok value) ∧
        left = { state with world := { state.world with log := reached } } :=
  @transact_map_eq_ok _ _ _ _ _ _ (fun state => body state.world.log)
    (fun state reached => { state with world := { state.world with log := reached } })

/-- A call of a store returns when its transaction commits. -/
theorem onAccounting_eq_ok {body : AccountingDb → Except MacrError (Committed AccountingDb α)} :
    onAccounting call site body state = (.ok value, left) ↔ call.fault site = none ∧
      ∃ reached, body state.world.accounting = .ok (reached, .ok value) ∧
        left = { state with world := { state.world with accounting := reached } } :=
  @transact_map_eq_ok _ _ _ _ _ _ (fun state => body state.world.accounting)
    (fun state reached => { state with world := { state.world with accounting := reached } })

end Returns

/-! ## Rules -/

/-- The calls of the kernels keep a relation. -/
structure UpheldKernels (sha : Sha256) (call : Invocation)
    (W : RuntimeWorld → RuntimeWorld → Prop) : Prop where
  /-- Nothing done is kept. -/
  refl : ∀ world, W world world
  /-- What follows is kept. -/
  trans : ∀ {first mid last}, W first mid → W mid last → W first last
  /-- A call of a kernel of the directory is kept. -/
  called : ∀ {world kernel asked clocks done}, kernel ∈ call.answers.directory →
    kernel.prepare sha world.admission.db clocks asked = .ok () →
    kernel.transact sha world.admission.db clocks asked = .ok done → W world (world.withDb done.1)

/-- The calls of the event log, the vault and accounting keep a relation. -/
structure UpheldStores (kernel : AccountingKernel) (hashes : Hashes) (call : Invocation)
    (runId : Uuid) (W : RuntimeWorld → RuntimeWorld → Prop) : Prop
    extends UpheldKernels kernel.sha call W where
  /-- The start of the run is kept. -/
  started : ∀ {world now payload done}, world.log.startRun now runId call.dispatchEventId payload =
    .ok done → W world { world with log := done.1 }
  /-- Its dispatch in accounting is kept. -/
  dispatchRecorded : ∀ {world now context done}, world.accounting.recordDispatch now runId context
    call.providerId call.answers.requestedModel none false = .ok done →
      W world { world with accounting := done.1 }
  /-- The file of its candidate is kept. -/
  filed : ∀ {world answer done}, world.vault.writeOnce call.providerId runId answer = .ok done →
    W world { world with vault := done.1 }
  /-- The row of its candidate is kept. -/
  captured : ∀ {world row done}, row.runId = runId → row.providerId = call.providerId →
    world.vault.recordCapture row = .ok done → W world { world with vault := done.1 }
  /-- Its observation is kept. -/
  observed : ∀ {world observation done}, recordObservationBound world.accounting runId observation =
    .ok done → W world { world with accounting := done.1 }
  /-- Its terminal in accounting is kept. -/
  terminalRecorded : ∀ {world now status billing code stage done}, world.accounting.recordTerminal
    kernel now runId status billing code stage call.outboxId = .ok done →
      W world { world with accounting := done.1 }
  /-- Its terminal event is kept. -/
  finished : ∀ {world now status payload done}, world.log.finishRun now runId call.terminalEventId
    status payload = .ok done → W world { world with log := done.1 }

/-- The calls of the leases keep a relation. -/
structure UpheldLeases (call : Invocation) (runId : Uuid) (W : RuntimeWorld → RuntimeWorld → Prop) :
    Prop where
  /-- Taking the lease is kept. -/
  acquired : ∀ {world now done}, world.leaseDb.acquire
    (dispatchResourceKey call.providerId call.task) runId (leaseSeconds call.task) now = .ok done →
      W world (world.withLeaseDb done.1)
  /-- Giving a lease back is kept. -/
  released : ∀ {world done} {permit : DispatchPermit}, world.leaseDb.release permit.resourceKey permit.runId
    permit.fencingToken = .ok done → W world (world.withLeaseDb done.1)

/-- A refusal passes nothing. -/
theorem refuse_ne_passed {result : Except MacrError ProviderResult} {context : RunContext} :
    refuse result ≠ .ok (.passed context) := by
  cases result <;> simp [refuse, Except.map]

/-- The context that passes the checks is the call's, but for its token policy; a permit comes with
its request. -/
theorem preflight_eq_passed {sha : Sha256} {call : Invocation} {context : RunContext}
    (passed : preflight sha call = .ok (.passed context)) :
    (∃ digest, context = { call.context with modelTokenPolicyDigest := digest }) ∧
      call.permit.isNone = call.request.isNone := by
  simp only [preflight, bind_eq_ok] at passed
  obtain ⟨_, _, _, _, passed⟩ := passed
  split at passed
  · split at passed
    · exact absurd passed refuse_ne_passed
    · cases passed
  · rename_i digest _
    simp only [bind_eq_ok] at passed
    obtain ⟨refused, _, passed⟩ := passed
    split at passed
    · exact absurd passed refuse_ne_passed
    · simp only [bind_eq_ok] at passed
      obtain ⟨disapproved, _, passed⟩ := passed
      split at passed
      · exact absurd passed refuse_ne_passed
      · simp only [bind_eq_ok] at passed
        obtain ⟨unadmitted, _, passed⟩ := passed
        split at passed
        · exact absurd passed refuse_ne_passed
        · split at passed
          · exact absurd passed refuse_ne_passed
          · rename_i together
            simp only [pure, Except.pure, Except.ok.injEq, Preflight.passed.injEq] at passed
            refine ⟨?_, not_not.mp together⟩
            subst passed
            cases digest with
            | some digest => exact ⟨some digest, rfl⟩
            | none => exact ⟨call.context.modelTokenPolicyDigest, rfl⟩

/-- The checks before dispatch change no run. -/
theorem runId_of_preflight {sha : Sha256} {call : Invocation} {context : RunContext}
    (passed : preflight sha call = .ok (.passed context)) : context.runId = call.context.runId := by
  obtain ⟨⟨digest, rfl⟩, _⟩ := preflight_eq_passed passed
  rfl

section Rules

variable {kernel : AccountingKernel} {hashes : Hashes} {call : Invocation} {runId : Uuid}
  {W : RuntimeWorld → RuntimeWorld → Prop}

/-- A relation between worlds as one between the states of an invocation. -/
def worldly (W : RuntimeWorld → RuntimeWorld → Prop) (before after : InvokeState) : Prop :=
  W before.world after.world

/-- The kernel of a provider is one of the directory. -/
theorem mem_of_kernelFor {answers : ProviderAnswers} {providerId : String}
    {admission : ProviderAdmissionKernel} (found : answers.kernelFor providerId = some admission) :
    admission ∈ answers.directory :=
  List.mem_of_find?_eq_some found

/-- A transaction keeps a relation that its commits keep. -/
theorem keeps_transact_worldly (refl : ∀ world, W world world) {α : Type}
    {fault : Option MacrError} {body : InvokeState → Except MacrError (InvokeState × Except MacrError α)}
    (committed : ∀ state reached outcome, body state = .ok (reached, outcome) →
      W state.world reached.world) : Keeps (worldly W) (Raising.transact fault body) := by
  intro state
  unfold Raising.transact
  cases fault with
  | some error => exact refl _
  | none =>
    cases done : body state with
    | ok result => exact committed state result.1 result.2 done
    | error error => exact refl _

/-- A call of a store keeps a relation that its commits keep. -/
theorem keeps_onLog (refl : ∀ world, W world world) {α : Type} {site : CallSite}
    {body : EventLog → Except MacrError (Committed EventLog α)}
    (committed : ∀ world done, body world.log = .ok done →
      W world { world with log := done.1 }) : Keeps (worldly W) (onLog call site body) := by
  refine keeps_transact_worldly refl fun state reached outcome done => ?_
  obtain ⟨result, ran, same⟩ := except_map_eq_ok.mp done
  cases same
  exact committed state.world result ran

/-- A call of a store keeps a relation that its commits keep. -/
theorem keeps_onVault (refl : ∀ world, W world world) {α : Type} {site : CallSite}
    {body : CandidateVault → Except MacrError (Committed CandidateVault α)}
    (committed : ∀ world done, body world.vault = .ok done →
      W world { world with vault := done.1 }) : Keeps (worldly W) (onVault call site body) := by
  refine keeps_transact_worldly refl fun state reached outcome done => ?_
  obtain ⟨result, ran, same⟩ := except_map_eq_ok.mp done
  cases same
  exact committed state.world result ran

/-- A call of a store keeps a relation that its commits keep. -/
theorem keeps_onAccounting (refl : ∀ world, W world world) {α : Type} {site : CallSite}
    {body : AccountingDb → Except MacrError (Committed AccountingDb α)}
    (committed : ∀ world done, body world.accounting = .ok done →
      W world { world with accounting := done.1 }) : Keeps (worldly W) (onAccounting call site body) := by
  refine keeps_transact_worldly refl fun state reached outcome done => ?_
  obtain ⟨result, ran, same⟩ := except_map_eq_ok.mp done
  cases same
  exact committed state.world result ran

/-- A call of the leases keeps a relation that its commits keep. -/
theorem keeps_onLeases (refl : ∀ world, W world world) {α : Type} {site : CallSite}
    {body : DispatchLeaseDb → Except MacrError (Committed DispatchLeaseDb α)}
    (committed : ∀ world done, body world.leaseDb = .ok done →
      W world (world.withLeaseDb done.1)) : Keeps (worldly W) (onLeases call site body) := by
  refine keeps_transact_worldly refl fun state reached outcome done => ?_
  obtain ⟨result, ran, same⟩ := except_map_eq_ok.mp done
  cases same
  exact committed state.world result ran

namespace UpheldKernels

variable {sha : Sha256} (upheld : UpheldKernels sha call W)
include upheld

theorem here {α : Type} {action : Invoking α}
    (same : ∀ state, (action state).2.world = state.world) : Keeps (worldly W) action := by
  intro state
  show W state.world (action state).2.world
  rw [same]
  exact upheld.refl _

theorem pure {α : Type} (value : α) : Keeps (worldly W) (Pure.pure value : Invoking α) :=
  upheld.here fun _ => rfl

theorem raise {α : Type} (error : MacrError) : Keeps (worldly W) (Raising.raise error : Invoking α) :=
  upheld.here fun _ => rfl

theorem read {α : Type} (view : InvokeState → α) :
    Keeps (worldly W) (Raising.read view : Invoking α) := upheld.here fun _ => rfl

theorem bind {α β : Type} {first : Invoking α} {next : α → Invoking β}
    (here : Keeps (worldly W) first) (later : ∀ value, Keeps (worldly W) (next value)) :
    Keeps (worldly W) (first >>= next) := by
  have : IsTrans InvokeState (worldly W) := ⟨fun _ _ _ => upheld.trans⟩
  exact keeps_bind here later

theorem handle {α : Type} {body : Invoking α} {handler : MacrError → Invoking α}
    (here : Keeps (worldly W) body) (later : ∀ error, Keeps (worldly W) (handler error)) :
    Keeps (worldly W) (Raising.handle body handler) := by
  have : IsTrans InvokeState (worldly W) := ⟨fun _ _ _ => upheld.trans⟩
  exact keeps_handle here later

theorem ensuring {α : Type} {body : Invoking α} {finalizer : Invoking Unit}
    (here : Keeps (worldly W) body) (later : Keeps (worldly W) finalizer) :
    Keeps (worldly W) (Raising.ensuring body finalizer) := by
  have : IsTrans InvokeState (worldly W) := ⟨fun _ _ _ => upheld.trans⟩
  exact keeps_ensuring here later

theorem inspect {α : Type} (site : CallSite) (body : RuntimeWorld → Except MacrError α) :
    Keeps (worldly W) (Macr.inspect call site body) := by
  refine keeps_transact_worldly upheld.refl fun state reached outcome done => ?_
  obtain ⟨value, _, same⟩ := except_map_eq_ok.mp done
  cases same
  exact upheld.refl _

theorem onKernel (site : CallSite) {admission : ProviderAdmissionKernel}
    (listed : admission ∈ call.answers.directory) (asked : KernelCall) :
    Keeps (worldly W) (Macr.onKernel sha call site admission asked) := by
  refine keeps_transact_worldly upheld.refl fun state reached outcome done => ?_
  simp only [bind_eq_ok, pure_eq_ok, Prod.mk.injEq] at done
  obtain ⟨_, prepared, committed, done, rfl, _⟩ := done
  exact upheld.called listed prepared done

/-- A lookup passes on only what it found. -/
theorem liftBind {α β : Type} {result : Except MacrError α} {next : α → Invoking β}
    (later : ∀ value, result = .ok value → Keeps (worldly W) (next value)) :
    Keeps (worldly W) (Raising.lift result >>= next) := by
  cases result with
  | ok value => exact later value rfl
  | error error => exact upheld.raise error

theorem admitNew {admission : ProviderAdmissionKernel} (listed : admission ∈ call.answers.directory)
    (request : ProviderAdmissionRequest) :
    Keeps (worldly W) (Macr.admitNew sha call admission request) := by
  unfold Macr.admitNew
  refine upheld.bind (upheld.handle (upheld.onKernel _ listed _) fun error => ?_) fun result => ?_
  · cases error
    case providerAdmissionBusy =>
      exact upheld.bind (upheld.onKernel _ listed _) fun _ => upheld.raise _
    all_goals exact upheld.raise _
  · cases result with
    | permit permit => exact upheld.pure permit
    | changed | done => exact upheld.raise _

theorem obtainAdmission (context : RunContext) :
    Keeps (worldly W) (Macr.obtainAdmission sha call context) := by
  unfold Macr.obtainAdmission
  split
  · refine upheld.liftBind fun admission found => ?_
    have listed := mem_of_kernelFor (require_eq_ok.mp found)
    split
    · refine upheld.liftBind fun request _ => upheld.bind (upheld.admitNew listed request) fun _ => ?_
      exact upheld.bind (upheld.here fun _ => rfl) fun _ => upheld.pure _
    · refine upheld.liftBind fun request _ => ?_
      split
      · exact upheld.raise _
      · exact upheld.pure _
  · exact upheld.pure _

theorem startTransport (request : Option ProviderAdmissionRequest)
    (permit : Option ProviderAdmissionPermit) :
    Keeps (worldly W) (Macr.startTransport sha call request permit) := by
  unfold Macr.startTransport
  split
  · rename_i found
    dsimp only
    split
    · refine upheld.handle ?_ fun _ => upheld.pure _
      exact upheld.bind (upheld.onKernel _ (mem_of_kernelFor found) _) fun _ => upheld.pure _
    · exact upheld.pure _
  · exact upheld.pure _

theorem observeOutcome (outcome : Except ProviderRaise ProviderExecution) :
    Keeps (worldly W) (Macr.observeOutcome call outcome) := by
  unfold Macr.observeOutcome
  cases outcome with
  | ok execution => exact upheld.bind (upheld.here fun _ => rfl) fun _ => upheld.pure execution
  | error raised =>
    refine upheld.liftBind fun execution _ => ?_
    exact upheld.bind (upheld.here fun _ => rfl) fun _ => upheld.pure execution

theorem settlePermit (permit : ProviderAdmissionPermit) (observation : ProviderObservation)
    (payload : Payload) :
    Keeps (worldly W) (Macr.settlePermit sha call permit observation payload) := by
  unfold Macr.settlePermit
  have marked : Keeps (worldly W) (Raising.modify (fun state : InvokeState =>
      { state with finished := true }) : Invoking Unit) := upheld.here fun _ => rfl
  refine upheld.liftBind fun admission found => upheld.bind (upheld.inspect _ _) fun stored => ?_
  have listed := mem_of_kernelFor (require_eq_ok.mp found)
  split
  · exact upheld.bind (upheld.onKernel _ listed _) fun _ => marked
  · split
    · exact upheld.bind (upheld.onKernel _ listed _) fun _ => marked
    · split
      · exact upheld.bind (upheld.raise _) fun _ => marked
      · exact marked

theorem closeAdmission (context : RunContext) :
    Keeps (worldly W) (Macr.closeAdmission sha call context) := by
  unfold Macr.closeAdmission
  refine upheld.bind (upheld.read _) fun permit => upheld.bind (upheld.read _) fun finished => ?_
  split
  · rename_i found
    have listed := mem_of_kernelFor found
    split
    · exact upheld.pure _
    · refine upheld.handle (upheld.bind (upheld.inspect _ _) fun stored => ?_) fun _ => upheld.pure _
      split
      · exact upheld.bind (upheld.onKernel _ listed _) fun _ => upheld.pure _
      · split
        · refine upheld.bind (upheld.read _) fun _ => ?_
          exact upheld.bind (upheld.onKernel _ listed _) fun _ => upheld.pure _
        · exact upheld.pure _
  · exact upheld.pure _

theorem cleanupUnusedPregrant : Keeps (worldly W) (Macr.cleanupUnusedPregrant sha call) := by
  unfold Macr.cleanupUnusedPregrant
  split
  · exact upheld.pure _
  · split
    · exact upheld.raise _
    · rename_i found
      refine upheld.bind (upheld.inspect _ _) fun stored => ?_
      split
      · exact upheld.bind (upheld.onKernel _ (mem_of_kernelFor found) _) fun _ => upheld.pure _
      · exact upheld.pure _

end UpheldKernels

namespace UpheldStores

variable (upheld : UpheldStores kernel hashes call runId W)
include upheld

theorem recordDispatches {context : RunContext} (named : context.runId = runId)
    (fencingToken : Nat) :
    Keeps (worldly W) (Macr.recordDispatches kernel.sha call context fencingToken) := by
  subst named
  unfold Macr.recordDispatches
  refine upheld.bind (keeps_onLog upheld.refl fun _ _ => upheld.started) fun _ => ?_
  refine upheld.bind (keeps_onAccounting upheld.refl fun _ _ => upheld.dispatchRecorded) fun _ => ?_
  exact upheld.pure ()

theorem captureCandidate {context : RunContext} (named : context.runId = runId)
    (execution : ProviderExecution) :
    Keeps (worldly W) (Macr.captureCandidate hashes call context execution) := by
  subst named
  unfold Macr.captureCandidate
  split
  · exact upheld.pure _
  · refine upheld.bind (keeps_onVault upheld.refl fun _ _ => upheld.filed) fun _ => ?_
    refine upheld.bind (keeps_onVault upheld.refl fun _ _ => upheld.captured rfl rfl) fun row => ?_
    exact upheld.pure _

theorem recordOutcome {context : RunContext} (named : context.runId = runId)
    (execution : ProviderExecution) :
    Keeps (worldly W) (Macr.recordOutcome kernel hashes call context execution) := by
  unfold Macr.recordOutcome
  refine upheld.bind (upheld.captureCandidate named execution) fun capture => ?_
  subst named
  refine upheld.bind (keeps_onAccounting upheld.refl fun _ _ => upheld.observed) fun _ => ?_
  refine upheld.liftBind fun validated _ => upheld.bind (upheld.here fun _ => rfl) fun _ => ?_
  refine upheld.bind (keeps_onAccounting upheld.refl fun _ _ => upheld.terminalRecorded) fun _ => ?_
  refine upheld.bind (keeps_onLog upheld.refl fun _ _ => upheld.finished) fun _ => ?_
  exact upheld.pure _

theorem dispatchPart {context : RunContext} (named : context.runId = runId) (fencingToken : Nat) :
    Keeps (worldly W) (Macr.dispatchPart kernel.sha call context fencingToken) := by
  unfold Macr.dispatchPart
  refine upheld.bind (upheld.obtainAdmission context) fun request => ?_
  refine upheld.bind (upheld.recordDispatches named fencingToken) fun _ => ?_
  exact upheld.bind (upheld.read _) fun permit => upheld.startTransport request permit

theorem afterProvider {context : RunContext} (named : context.runId = runId)
    (outcome : Except ProviderRaise ProviderExecution) :
    Keeps (worldly W) (Macr.afterProvider kernel hashes call context outcome) := by
  unfold Macr.afterProvider
  refine upheld.bind (upheld.observeOutcome outcome) fun execution => ?_
  refine upheld.bind (upheld.recordOutcome named execution) fun recorded => ?_
  refine upheld.bind (upheld.read _) fun permit => ?_
  cases permit with
  | some permit =>
    exact upheld.bind (upheld.settlePermit permit _ _) fun _ => upheld.pure recorded.1.result
  | none => exact upheld.pure recorded.1.result

end UpheldStores

/-! ## The whole invocation -/

section Whole

variable (kernels : UpheldKernels kernel.sha call W) (leases : UpheldLeases call runId W)
include kernels leases

theorem keeps_releaseDispatch (site : CallSite) (permit : DispatchPermit) :
    Keeps (worldly W) (releaseDispatch call site permit) := by
  unfold releaseDispatch
  exact kernels.bind (keeps_onLeases kernels.refl fun _ _ => leases.released) fun _ => kernels.pure ()

theorem keeps_admitDispatch {context : RunContext} (named : context.runId = runId) :
    Keeps (worldly W) (admitDispatch kernel.sha call context) := by
  unfold admitDispatch
  subst named
  refine kernels.bind (kernels.inspect _ _) fun _ => ?_
  refine kernels.bind (keeps_onLeases kernels.refl fun _ _ => leases.acquired) fun permit => ?_
  refine kernels.bind (kernels.handle (kernels.inspect _ _) fun error => ?_) fun _ => kernels.pure permit
  cases error
  case dispatchAuthorization =>
    exact kernels.bind (keeps_releaseDispatch kernels leases _ _) fun _ => kernels.raise _
  all_goals exact kernels.raise _

theorem keeps_closing (context : RunContext) (permit : DispatchPermit) :
    Keeps (worldly W) (closing kernel.sha call context permit) := by
  unfold closing
  exact kernels.bind (kernels.closeAdmission context)
    fun _ => keeps_releaseDispatch kernels leases _ _

/-- A relation is kept by an invocation when it is kept by what is done under the lease. -/
theorem keeps_invokeBody (named : call.context.runId = runId)
    (under : ∀ context fencingToken, context.runId = runId →
      Keeps (worldly W) (dispatched kernel hashes call context fencingToken)) :
    Keeps (worldly W) (invokeBody kernel hashes call) := by
  have owned : Keeps (worldly W) (invokeOwned kernel hashes call) := by
    unfold invokeOwned
    refine kernels.liftBind fun checked passed => ?_
    cases checked with
    | refused result => exact kernels.pure result
    | passed context =>
      have same : context.runId = runId := (runId_of_preflight passed).trans named
      refine kernels.bind (kernels.handle (kernels.bind (keeps_admitDispatch kernels leases same)
        fun permit => kernels.pure _) fun error => ?_) fun admitted => ?_
      · split
        · exact kernels.liftBind fun result _ => kernels.pure _
        · exact kernels.raise error
      · cases admitted with
        | inr result => exact kernels.pure result
        | inl permit =>
          exact kernels.ensuring (under context permit.fencingToken same)
            (keeps_closing kernels leases context permit)
  unfold invokeBody
  refine kernels.bind (kernels.handle owned fun error => ?_) fun result => ?_
  · exact kernels.bind (kernels.handle kernels.cleanupUnusedPregrant fun _ => kernels.raise error)
      fun _ => kernels.raise error
  · exact kernels.bind kernels.cleanupUnusedPregrant fun _ => kernels.pure result

end Whole

end Rules
end Macr
