import Macr.ProviderAdmission.Operations
import Macr.Lib.Machine

/-!
# Kernels, calls and runs

Any number of kernels share one database. A call is made in two steps: what it checks before it
takes the write lock, and its write transaction, with anything in between. A run is a list of
actions of kernels and of the other stores; a kernel has to be constructed before it is called.
-/

namespace Macr

open Lib

namespace ProviderAdmissionKernel

/-- A call of a public operation with its arguments. -/
inductive KernelCall where
  | tryAdmit (request : ProviderAdmissionRequest) (ttlSeconds : Nat)
  | beginTransport (permit : ProviderAdmissionPermit) (request : ProviderAdmissionRequest)
  | cancelBeforeTransport (permit : ProviderAdmissionPermit)
  | cancelWaiting (requestId runId : Uuid)
  | finish (permit : ProviderAdmissionPermit) (report : TransportReport)
  | resolveReconciliation (requestId : Uuid) (reference : AuthorizationReference)
      (evidence : Digest)
  | activateTarget (target : ProviderAdmissionTargetBinding) (reference : AuthorizationReference)
  | activateHalfOpen (binding : ProviderAdmissionCircuitBinding)
      (reference : AuthorizationReference) (probe : ProviderAdmissionRequest)
  | supersedePolicy (binding : ProviderAdmissionPolicyTransitionBinding)
      (successor : ProviderAdmissionPolicy) (reference : AuthorizationReference)

/-- What a call returns. -/
inductive CallResult where
  | permit (permit : ProviderAdmissionPermit)
  | changed (changed : Bool)
  | done
deriving DecidableEq

/-- The clock readings of one step: the kernel's, and the authority store's for a probe and for a
reference. -/
structure ClockReadings where
  /-- The kernel's reading. -/
  kernel : Timestamp
  /-- The authority store's reading for a probe request. -/
  probe : Timestamp
  /-- The authority store's reading for a reference. -/
  authority : Timestamp
deriving DecidableEq

/-- The checks of `finish` on its arguments. -/
def TransportReport.checkArguments (report : TransportReport) : Except MacrError Unit := do
  raiseIf (report.responseReceived = some true ∧ report.networkAttempted ≠ some true)
    (.valueError "response_received requires network_attempted")
  raiseIf (report.providerHttpStatus.any (fun status =>
      status < 100 || 599 < status || report.responseReceived ≠ some true))
    (.valueError "provider_http_status is invalid")

/-- What a call checks before it takes the write lock. -/
def prepare (sha : Sha256) (kernel : ProviderAdmissionKernel) (db : RuntimeDb)
    (clocks : ClockReadings) : KernelCall → Except MacrError Unit
  | .tryAdmit request ttlSeconds => do
    raiseIf (request.providerId ≠ kernel.policy.providerId)
      (.providerAdmissionConflict "provider admission request uses another provider")
    raiseIf (¬(1 ≤ ttlSeconds ∧ ttlSeconds ≤ 86400))
      (.valueError "ttl_seconds must be between 1 and 86400")
    let _ ← db.authority.verify sha clocks.authority request.authorization
      (kernel.admissionUse sha request)
  | .finish _ report => report.checkArguments
  | .resolveReconciliation requestId reference _ => do
    let row ← require ((db.admission.requests.find? requestId).filter
        (fun row => row.state = .reconciliationRequired))
      (.providerAdmissionConflict
        "provider admission request does not require reconciliation")
    let _ ← db.authority.verify sha clocks.authority reference (resolutionUse row)
  | .activateTarget target reference => do
    raiseIf (target.providerId ≠ kernel.policy.providerId ∨
        target.policyDigest ≠ kernel.policy.policyDigest sha ∨
        target.policyRevision ≠ kernel.policy.revision ∨
        ¬(1 ≤ target.target ∧ target.target ≤ kernel.policy.hardMax))
      (.providerAdmissionConflict "provider admission target binding is stale")
    let _ ← db.authority.verify sha clocks.authority reference
      (kernel.targetUse (target.bindingDigest sha))
  | .activateHalfOpen binding reference probe => do
    raiseIf (binding.providerId ≠ kernel.policy.providerId ∨
        binding.policyDigest ≠ kernel.policy.policyDigest sha ∨
        binding.policyRevision ≠ kernel.policy.revision)
      (.providerAdmissionConflict "provider admission circuit binding is stale")
    raiseIf (probe.providerId ≠ kernel.policy.providerId ∨ probe.lane ≠ .interactive ∨
        probe.bindingDigest sha ≠ binding.probeRequestDigest)
      (.providerAdmissionConflict
        "half-open binding does not name one exact interactive request")
    let _ ← db.authority.verify sha clocks.probe probe.authorization
      (kernel.admissionUse sha probe)
    let _ ← db.authority.verify sha clocks.authority reference
      (kernel.circuitUse (binding.bindingDigest sha))
  | .supersedePolicy binding successor reference => do
    raiseIf ((kernel.policy, successor) ∉ supportedPairs ∨
        kernel.policy.providerId ≠ binding.providerId ∨
        kernel.policy.policyDigest sha ≠ binding.fromPolicyDigest ∨
        kernel.policy.revision ≠ binding.fromPolicyRevision ∨
        successor.providerId ≠ binding.providerId ∨
        successor.policyDigest sha ≠ binding.toPolicyDigest ∨
        successor.revision ≠ binding.toPolicyRevision ∨
        ¬(1 ≤ binding.target ∧ binding.target ≤ successor.hardMax))
      (.providerAdmissionConflict "provider admission policy transition binding is stale")
    let _ ← db.authority.verify sha clocks.authority reference
      (kernel.policyTransitionUse (binding.bindingDigest sha))
  | .beginTransport _ _ | .cancelBeforeTransport _ | .cancelWaiting _ _ => pure ()

/-- The result of a transaction as the result of a call. -/
def reported {α : Type} (report : α → CallResult) (result : Committed RuntimeDb α) :
    Committed RuntimeDb CallResult := (result.1, result.2.map report)

/-- The write transaction of a call. -/
def transact (sha : Sha256) (kernel : ProviderAdmissionKernel) (db : RuntimeDb)
    (clocks : ClockReadings) : KernelCall → Except MacrError (Committed RuntimeDb CallResult)
  | .tryAdmit request ttlSeconds =>
    (kernel.tryAdmit sha db request ttlSeconds clocks.kernel).map (reported .permit)
  | .beginTransport permit request =>
    (kernel.beginTransport sha db permit request clocks.kernel clocks.authority).map
      (reported (fun _ => .done))
  | .cancelBeforeTransport permit =>
    (kernel.cancelBeforeTransport sha db permit clocks.kernel).map (reported (fun _ => .done))
  | .cancelWaiting requestId runId =>
    (cancelWaiting db requestId runId clocks.kernel).map (reported .changed)
  | .finish permit report =>
    (kernel.finish sha db permit report clocks.kernel).map (reported (fun _ => .done))
  | .resolveReconciliation requestId _ evidence =>
    (kernel.resolveReconciliation sha db requestId evidence clocks.kernel).map
      (reported (fun _ => .done))
  | .activateTarget target reference =>
    (kernel.activateTarget sha db target reference clocks.kernel clocks.authority).map
      (reported (fun _ => .done))
  | .activateHalfOpen binding reference probe =>
    (kernel.activateHalfOpen sha db binding reference probe clocks.kernel clocks.probe
      clocks.authority).map (reported (fun _ => .done))
  | .supersedePolicy binding successor reference =>
    (kernel.supersedePolicy sha db binding successor reference clocks.kernel
      clocks.authority).map (reported (fun _ => .done))

/-- What the checks of a call on its arguments alone establish. -/
def Prepared (sha : Sha256) (kernel : ProviderAdmissionKernel) : KernelCall → Prop
  | .tryAdmit request _ => request.providerId = kernel.policy.providerId
  | .activateHalfOpen binding _ probe =>
    probe.providerId = kernel.policy.providerId ∧
      probe.bindingDigest sha = binding.probeRequestDigest
  | .supersedePolicy _ successor _ => (kernel.policy, successor) ∈ supportedPairs
  | _ => True

/-- A call that has made its checks is prepared. -/
theorem prepared_of_prepare {sha : Sha256} {kernel : ProviderAdmissionKernel} {db : RuntimeDb}
    {clocks : ClockReadings} {call : KernelCall}
    (passed : kernel.prepare sha db clocks call = .ok ()) : Prepared sha kernel call := by
  cases call <;> simp only [Prepared]
  case tryAdmit request ttlSeconds =>
    simp only [prepare, bind_eq_ok, raiseIf_eq_ok, exists_const, ne_eq, not_not] at passed
    exact passed.1
  case activateHalfOpen binding reference probe =>
    simp only [prepare, bind_eq_ok, raiseIf_eq_ok, exists_const, not_or, ne_eq, not_not] at passed
    exact ⟨passed.2.1.1, passed.2.1.2.2⟩
  case supersedePolicy binding successor reference =>
    simp only [prepare, bind_eq_ok, raiseIf_eq_ok, exists_const, not_or, not_not] at passed
    exact passed.1.1

/-- The kinds of effect a call can have. -/
def KernelCall.kinds : KernelCall → List EffectKind
  | .tryAdmit _ _ => [.withdraw, .release, .uncertain, .signal, .enqueue, .grant]
  | .beginTransport _ _ => [.withdraw, .release, .uncertain, .signal, .dispatch]
  | .cancelBeforeTransport _ => [.release, .signal]
  | .cancelWaiting _ _ => [.withdraw]
  | .finish _ _ => [.uncertain, .release, .terminal]
  | .resolveReconciliation _ _ _ => [.release, .signal]
  | .activateTarget _ _ => [.target, .authority]
  | .activateHalfOpen _ _ _ => [.halfOpen, .authority]
  | .supersedePolicy _ _ _ => [.supersede, .authority]

/-- The call is applied to the kernel's own provider's permit or request. -/
def OwnArguments (kernel : ProviderAdmissionKernel) (tables : AdmissionTables) :
    KernelCall → Prop
  | .beginTransport permit _ | .cancelBeforeTransport permit | .finish permit _ =>
    permit.providerId = kernel.policy.providerId
  | .cancelWaiting requestId _ | .resolveReconciliation requestId _ _ =>
    ∀ row ∈ tables.requests.rows, row.requestId = requestId →
      row.providerId = kernel.policy.providerId
  | _ => True

/-- The effects of a call's transaction: first on requests of the kernel's own provider, then on
those of one provider, which its arguments may choose. -/
def CallEffects (sha : Sha256) (kernel : ProviderAdmissionKernel) (provider : String)
    (kinds : List EffectKind) (before after : RuntimeDb) : Prop :=
  ∃ mid, Effects sha kernel kernel.policy.providerId kinds before mid ∧
    Effects sha kernel provider kinds mid after

/-- A property that every entitled effect of some kinds keeps is kept by a call of a kernel whose
policy is stored, and the policy stays stored. -/
theorem CallEffects.invariant {sha : Sha256} {kernel : ProviderAdmissionKernel}
    {provider : String} {kinds : List EffectKind} (Inv : RuntimeDb → Prop)
    (keep : ∀ provider, ∀ kind ∈ kinds, ∀ before after, Entitled sha kernel kind before →
      Inv before → Effect sha kernel provider kind before after → Inv after)
    {before after : RuntimeDb} (known : PolicyKnown sha before.admission kernel.policy)
    (start : Inv before) (effects : CallEffects sha kernel provider kinds before after) :
    Inv after := by
  obtain ⟨mid, own, chosen⟩ := effects
  have both : ∀ provider, ∀ kind ∈ kinds, ∀ before after,
      (PolicyKnown sha before.admission kernel.policy ∧ Inv before) →
      Effect sha kernel provider kind before after →
      PolicyKnown sha after.admission kernel.policy ∧ Inv after :=
    fun provider kind listed _ _ held effect => ⟨held.1.of_effect effect,
      keep provider kind listed _ _ (Or.inr held.1) held.2 effect⟩
  exact ((chosen.invariant _ (both provider)) (own.invariant _ (both _) ⟨known, start⟩)).2

/-- The transaction of a prepared call is a sequence of effects of its kinds, on its own provider
where its arguments are. -/
theorem transact_effects {sha : Sha256} {kernel : ProviderAdmissionKernel} {db : RuntimeDb}
    {clocks : ClockReadings} {call : KernelCall} {result : Committed RuntimeDb CallResult}
    (prepared : Prepared sha kernel call)
    (done : kernel.transact sha db clocks call = .ok result) :
    ∃ provider,
      (OwnArguments kernel db.admission call → provider = kernel.policy.providerId) ∧
      CallEffects sha kernel provider call.kinds db result.1 := by
  have start : Effects sha kernel kernel.policy.providerId [] db db := Relation.ReflTransGen.refl
  cases call with
  | tryAdmit request ttlSeconds =>
    obtain ⟨inner, committed, rfl⟩ := except_map_eq_ok.mp done
    obtain ⟨before, mid, expired, outcome⟩ := tryAdmit_eq_ok prepared committed
    refine ⟨_, fun _ => rfl, mid, expired.effects.mono (by simp [KernelCall.kinds]), ?_⟩
    rcases outcome with unchanged | ⟨ready, state, row, considered, decided⟩
    · simp only [reported, unchanged]
      exact Relation.ReflTransGen.refl
    · exact (considered.effects decided).mono (by simp [KernelCall.kinds])
  | beginTransport permit request =>
    obtain ⟨inner, committed, rfl⟩ := except_map_eq_ok.mp done
    obtain ⟨before, mid, state, row, expired, _, _, stored, _, matching, outcome⟩ :=
      beginTransport_eq_ok committed
    simp only [permitMatchesRow, decide_eq_true_eq] at matching
    refine ⟨row.providerId, fun own => matching.1.trans own, mid,
      expired.effects.mono (by simp [KernelCall.kinds]), ?_⟩
    rcases outcome with ⟨error, rfl⟩ | ⟨_, ⟨_, released⟩ | ⟨_, started, conditions⟩⟩
    · exact Relation.ReflTransGen.refl
    · exact released.mono (by simp [KernelCall.kinds])
    · simp only [reported, started]
      exact Effects.single (by simp [KernelCall.kinds])
        (dispatch_effect clocks.kernel stored conditions.granted)
  | cancelBeforeTransport permit =>
    obtain ⟨inner, committed, rfl⟩ := except_map_eq_ok.mp done
    obtain ⟨row, _, _, matching, _, effects⟩ := cancelBeforeTransport_eq_ok committed
    simp only [permitMatchesRow, decide_eq_true_eq] at matching
    exact ⟨row.providerId, fun own => matching.1.trans own, db, Relation.ReflTransGen.refl, effects⟩
  | cancelWaiting requestId runId =>
    obtain ⟨inner, committed, rfl⟩ := except_map_eq_ok.mp done
    rcases cancelWaiting_eq_ok committed with unchanged | ⟨row, stored, named, _, _, effects⟩
    · simp only [reported, unchanged]
      exact ⟨_, fun _ => rfl, db, Relation.ReflTransGen.refl, Relation.ReflTransGen.refl⟩
    · exact ⟨row.providerId, fun own => own row stored named, db, Relation.ReflTransGen.refl,
        effects⟩
  | finish permit report =>
    obtain ⟨inner, committed, rfl⟩ := except_map_eq_ok.mp done
    obtain ⟨state, row, mid, _, _, _, matching, _, first, _, terminal, _⟩ := finish_eq_ok committed
    simp only [permitMatchesRow, decide_eq_true_eq] at matching
    have listed : (if report.ambiguous then .uncertain else .release : EffectKind) ∈
        KernelCall.kinds (.finish permit report) := by
      simp only [KernelCall.kinds]
      split <;> simp
    exact ⟨row.providerId, fun own => matching.1.trans own, db, Relation.ReflTransGen.refl,
      (Effects.single listed first).tail ⟨.terminal, by simp [KernelCall.kinds], terminal⟩⟩
  | resolveReconciliation requestId reference evidence =>
    obtain ⟨inner, committed, rfl⟩ := except_map_eq_ok.mp done
    obtain ⟨state, row, _, stored, named, _, _, effects⟩ := resolveReconciliation_eq_ok committed
    exact ⟨row.providerId, fun own => own row stored named, db, Relation.ReflTransGen.refl, effects⟩
  | activateTarget target reference =>
    obtain ⟨inner, committed, rfl⟩ := except_map_eq_ok.mp done
    exact ⟨_, fun _ => rfl, db, Relation.ReflTransGen.refl, (activateTarget_eq_ok committed).2.2 _⟩
  | activateHalfOpen binding reference probe =>
    obtain ⟨inner, committed, rfl⟩ := except_map_eq_ok.mp done
    exact ⟨_, fun _ => rfl, db, Relation.ReflTransGen.refl,
      (activateHalfOpen_eq_ok committed).2.2 _⟩
  | supersedePolicy binding successor reference =>
    obtain ⟨inner, committed, rfl⟩ := except_map_eq_ok.mp done
    exact ⟨_, fun _ => rfl, db, Relation.ReflTransGen.refl,
      (supersedePolicy_eq_ok (supportedPairs_provider prepared) committed).2.2 _⟩

end ProviderAdmissionKernel

open ProviderAdmissionKernel

/-- A call between its checks and its write transaction. -/
structure PendingCall where
  /-- The kernel called. -/
  kernel : ProviderAdmissionKernel
  /-- The call. -/
  call : KernelCall
  /-- The authority tables its checks read. -/
  seen : AuthorityTables

/-- The database, the kernels constructed on it and the calls under way. -/
structure AdmissionSystem where
  /-- The runtime database. -/
  db : RuntimeDb
  /-- The constructed kernels. -/
  kernels : List ProviderAdmissionKernel
  /-- The calls that have passed their checks. -/
  pending : List PendingCall

/-- A new database and no kernel. -/
def AdmissionSystem.initial : AdmissionSystem := ⟨.initial, [], []⟩

/-- The steps of kernels and of the other stores. -/
inductive AdmissionAction where
  /-- A kernel is constructed. -/
  | install (kernel : ProviderAdmissionKernel) (nonterminalRuns activeDispatchLeases : Nat)
      (now : Timestamp)
  /-- A call makes its checks. -/
  | prepare (kernel : ProviderAdmissionKernel) (call : KernelCall) (clocks : ClockReadings)
  /-- A checked call runs its write transaction. -/
  | commit (index : Nat) (clocks : ClockReadings)
  /-- An authority is issued. -/
  | issue (sourceKind sourceId : String) (scope : AuthorityScope) (expiresAt now : Timestamp)
      (authorityId : Uuid)
  /-- An authority is revoked. -/
  | revoke (reference : AuthorizationReference) (now : Timestamp)
  /-- The epoch is advanced. -/
  | advanceEpoch (reasonDigest : Digest) (state : AuthorityState) (now : Timestamp)
  /-- Another store draws a fencing token. -/
  | drawToken

namespace AdmissionSystem

variable (sha : Sha256)

/-- The write transaction of a pending call on the current database. -/
def transaction (system : AdmissionSystem) (index : Nat) (clocks : ClockReadings) :
    Option (PendingCall × Except MacrError (Committed RuntimeDb CallResult)) :=
  (system.pending[index]?).map
    (fun pending => (pending, pending.kernel.transact sha system.db clocks pending.call))

/-- One step. -/
def step (system : AdmissionSystem) : AdmissionAction → AdmissionSystem
  | .install kernel nonterminalRuns activeDispatchLeases now =>
    match kernel.installPolicy sha system.db nonterminalRuns activeDispatchLeases now with
    | .ok result => { system with db := result.1, kernels := kernel :: system.kernels }
    | .error _ => system
  | .prepare kernel call clocks =>
    if kernel ∈ system.kernels ∧ kernel.prepare sha system.db clocks call = .ok () then
      { system with pending := system.pending ++ [⟨kernel, call, system.db.authority⟩] }
    else
      system
  | .commit index clocks =>
    match system.transaction sha index clocks with
    | some (_, result) =>
      { system with
        db := (settle system.db result).1
        pending := system.pending.eraseIdx index }
    | none => system
  | .issue sourceKind sourceId scope expiresAt now authorityId =>
    let result := settle system.db.authority
      (system.db.authority.issue sha sourceKind sourceId scope expiresAt now authorityId)
    { system with db := { system.db with authority := result.1 } }
  | .revoke reference now =>
    let result := settle system.db.authority (system.db.authority.revoke reference now)
    { system with db := { system.db with authority := result.1 } }
  | .advanceEpoch reasonDigest state now =>
    { system with
      db := { system.db with
        authority := system.db.authority.advanceEpoch reasonDigest state now } }
  | .drawToken =>
    { system with db := { system.db with fencingCounter := system.db.fencingCounter + 1 } }

/-- The admission system as a machine. -/
def machine : Machine AdmissionSystem AdmissionAction := ⟨step sha⟩

/-- Every constructed kernel's policy is stored, and every pending call is a constructed kernel's
and has passed its checks. -/
structure Sound (system : AdmissionSystem) : Prop where
  /-- Kernels' policies are stored. -/
  known : ∀ kernel ∈ system.kernels, PolicyKnown sha system.db.admission kernel.policy
  /-- Pending calls are prepared. -/
  pending : ∀ call ∈ system.pending, call.kernel ∈ system.kernels ∧
    Prepared sha call.kernel call.call

variable {sha}

/-- The call a transaction belongs to is pending. -/
theorem transaction_eq_some {system : AdmissionSystem} {index : Nat} {clocks : ClockReadings}
    {pending : PendingCall} {result : Except MacrError (Committed RuntimeDb CallResult)}
    (found : system.transaction sha index clocks = some (pending, result)) :
    pending ∈ system.pending ∧
      result = pending.kernel.transact sha system.db clocks pending.call := by
  simp only [transaction, Option.map_eq_some_iff, Prod.mk.injEq] at found
  obtain ⟨call, at_index, rfl, rfl⟩ := found
  exact ⟨List.mem_of_getElem? at_index, rfl⟩

/-- The action runs the transaction of a pending call, which commits. -/
def Commits (sha : Sha256) (system : AdmissionSystem) (action : AdmissionAction)
    (call : PendingCall) (clocks : ClockReadings) (result : Committed RuntimeDb CallResult) :
    Prop :=
  ∃ index, action = .commit index clocks ∧
    system.transaction sha index clocks = some (call, .ok result)

/-- A committed call is pending, and its transaction succeeds. -/
theorem Commits.transacted {system : AdmissionSystem} {action : AdmissionAction}
    {call : PendingCall} {clocks : ClockReadings} {result : Committed RuntimeDb CallResult}
    (commits : Commits sha system action call clocks result) :
    call ∈ system.pending ∧
      call.kernel.transact sha system.db clocks call.call = .ok result := by
  obtain ⟨index, rfl, found⟩ := commits
  obtain ⟨member, done⟩ := transaction_eq_some found
  exact ⟨member, done.symm⟩

/-- A committed call's database is the next one. -/
theorem Commits.db {system : AdmissionSystem} {action : AdmissionAction}
    {call : PendingCall} {clocks : ClockReadings} {result : Committed RuntimeDb CallResult}
    (commits : Commits sha system action call clocks result) :
    (step sha system action).db = result.1 := by
  obtain ⟨index, rfl, found⟩ := commits
  simp only [step, found, settle]

/-- One step leaves the database, or has one effect of a kernel's constructor or of another
store, or commits a pending call. -/
theorem step_cases (sha : Sha256) (system : AdmissionSystem) (action : AdmissionAction) :
    (step sha system action).db = system.db ∨
      (∃ kernel provider kind, kind ∈ freeKinds ∧
        Effect sha kernel provider kind system.db (step sha system action).db) ∨
      ∃ call clocks result, Commits sha system action call clocks result := by
  -- Another store's effect may be ascribed to any kernel.
  have foreign : ∀ kind ∈ freeKinds, ∀ after, (∀ kernel provider,
      Effect sha kernel provider kind system.db after) →
      ∃ kernel provider kind, kind ∈ freeKinds ∧
        Effect sha kernel provider kind system.db after :=
    fun kind free after effect =>
      ⟨⟨0, glmProviderAdmissionPolicy, .offlineTest⟩, "", kind, free, effect _ _⟩
  cases action with
  | install kernel nonterminalRuns activeDispatchLeases now =>
    simp only [step]
    split
    · rename_i result installed
      right; left
      rcases installPolicy_eq_ok installed kernel.policy.providerId with genesis | policy
      · exact ⟨kernel, _, .genesis, by decide, genesis⟩
      · exact ⟨kernel, _, .policy, by decide, policy⟩
    · exact Or.inl rfl
  | prepare kernel call clocks =>
    simp only [step]
    split <;> exact Or.inl rfl
  | commit index clocks =>
    cases found : system.transaction sha index clocks with
    | none => exact Or.inl (by simp only [step, found])
    | some pair =>
      obtain ⟨call, outcome⟩ := pair
      cases outcome with
      | error error => exact Or.inl (by simp only [step, found, settle])
      | ok result => exact Or.inr (Or.inr ⟨call, clocks, result, index, rfl, found⟩)
  | issue sourceKind sourceId scope expiresAt now authorityId =>
    exact Or.inr (Or.inl (foreign .authority (by decide) _ fun _ _ => Effect.authority _))
  | revoke reference now =>
    exact Or.inr (Or.inl (foreign .authority (by decide) _ fun _ _ => Effect.authority _))
  | advanceEpoch reasonDigest state now =>
    exact Or.inr (Or.inl (foreign .authority (by decide) _ fun _ _ => Effect.authority _))
  | drawToken => exact Or.inr (Or.inl (foreign .token (by decide) _ fun _ _ => Effect.token))

/-- A property of the database that every entitled effect keeps is kept by every step. -/
theorem step_invariant (Inv : RuntimeDb → Prop)
    (keep : ∀ kernel provider kind before after, Entitled sha kernel kind before → Inv before →
      Effect sha kernel provider kind before after → Inv after) {system : AdmissionSystem}
    (sound : Sound sha system) (held : Inv system.db) (action : AdmissionAction) :
    Inv (step sha system action).db := by
  rcases step_cases sha system action with same | ⟨kernel, provider, kind, free, effect⟩ |
      ⟨call, clocks, result, commits⟩
  · exact same ▸ held
  · exact keep kernel provider kind _ _ (Or.inl free) held effect
  · obtain ⟨member, done⟩ := commits.transacted
    obtain ⟨constructed, prepared⟩ := sound.pending call member
    obtain ⟨provider, _, effects⟩ := transact_effects prepared done
    rw [commits.db]
    exact effects.invariant Inv (fun provider kind _ => keep call.kernel provider kind)
      (sound.known _ constructed) held

/-- Every step keeps the system sound. -/
theorem sound_step {system : AdmissionSystem} (sound : Sound sha system)
    (action : AdmissionAction) : Sound sha (step sha system action) := by
  have kept : ∀ policy, PolicyKnown sha system.db.admission policy →
      PolicyKnown sha (step sha system action).db.admission policy :=
    fun policy known => step_invariant (fun db => PolicyKnown sha db.admission policy)
      (fun _ _ _ _ _ _ known effect => PolicyKnown.of_effect known effect) sound known action
  constructor
  · intro kernel member
    cases action with
    | install installed nonterminalRuns activeDispatchLeases now =>
      cases done : installed.installPolicy sha system.db nonterminalRuns activeDispatchLeases now with
      | ok result =>
        simp only [step, done] at member kept ⊢
        rcases List.mem_cons.mp member with rfl | earlier
        · exact PolicyKnown.of_install (installPolicy_eq_ok done "")
        · exact kept _ (sound.known kernel earlier)
      | error error =>
        simp only [step, done] at member ⊢
        exact sound.known kernel member
    | prepare called call clocks =>
      simp only [step] at member
      refine kept _ (sound.known kernel ?_)
      split at member <;> exact member
    | commit index clocks =>
      simp only [step] at member
      refine kept _ (sound.known kernel ?_)
      split at member <;> exact member
    | issue | revoke | advanceEpoch | drawToken => exact kept _ (sound.known kernel member)
  · intro call member
    cases action with
    | install installed nonterminalRuns activeDispatchLeases now =>
      simp only [step] at member ⊢
      split at member
      · obtain ⟨constructed, prepared⟩ := sound.pending call member
        exact ⟨List.mem_cons_of_mem _ constructed, prepared⟩
      · exact sound.pending call member
    | prepare called asked clocks =>
      simp only [step] at member ⊢
      split at member
      · rename_i passed
        rw [if_pos passed]
        rcases List.mem_append.mp member with earlier | new
        · exact sound.pending call earlier
        · rw [List.mem_singleton] at new
          subst new
          exact ⟨passed.1, prepared_of_prepare passed.2⟩
      · rename_i refused
        rw [if_neg refused]
        exact sound.pending call member
    | commit index clocks =>
      simp only [step] at member ⊢
      split at member
      · exact sound.pending call (List.mem_of_mem_eraseIdx member)
      · exact sound.pending call member
    | issue | revoke | advanceEpoch | drawToken => exact sound.pending call member

/-- The initial system is sound. -/
theorem sound_initial : Sound sha .initial := by
  constructor <;> simp [initial]

/-- The run rule: a property of the database that every entitled effect keeps, and that holds of
the empty database, holds of every reachable one, and the system is sound there. -/
theorem reachable (Inv : RuntimeDb → Prop) (start : Inv .initial)
    (keep : ∀ kernel provider kind before after, Entitled sha kernel kind before → Inv before →
      Effect sha kernel provider kind before after → Inv after) (actions : List AdmissionAction) :
    Sound sha ((machine sha).run .initial actions) ∧
      Inv ((machine sha).run .initial actions).db := by
  have both : ∀ system action, (Sound sha system ∧ Inv system.db) →
      Sound sha (step sha system action) ∧ Inv (step sha system action).db :=
    fun system action held =>
      ⟨sound_step held.1 action, step_invariant Inv keep held.1 held.2 action⟩
  exact (machine sha).run_invariant_all both ⟨sound_initial, start⟩ actions

/-! ## Sample calls -/

/-- The kernel of the sample runs. -/
def sampleKernel : ProviderAdmissionKernel := ⟨0, glmProviderAdmissionPolicy, .offlineTest⟩

/-- A scope over one plane, one project and the interactive lane. -/
def sampleScope (sha : Sha256) (plane : String) : AuthorityScope where
  providers := ["glm_flash_worker"]
  planes := [plane]
  taskTypes := []
  batchIds := []
  memberDigests := []
  providerTierBindingDigests := []
  projectBindingDigests := [3]
  admissionLanes := [.interactive]
  providerAdmissionPolicyDigests := [glmProviderAdmissionPolicy.policyDigest sha]
  providerAdmissionTargetDigests := []
  providerAdmissionCircuitDigests := []
  scopeContractVersion := .v3
  providers_required := by simp
  planes_required := by simp
  legacy_tiers := by simp
  legacy_admission := by simp

/-- The reference of the authority issued first for a plane. -/
def sampleReference (sha : Sha256) (plane : String) (authorityId : Uuid) :
    AuthorizationReference where
  sourceKind := plane
  sourceId := "operator"
  digest := sha.sha256
    (AuthorityBody.toDict ⟨authorityId, plane, "operator", 1, 0, sampleScope sha plane, 1, 1000⟩)
  revision := 1
  epoch := 0
  scope := sampleScope sha plane
  revision_positive := le_refl 1

/-- A request of the run's project. -/
def sampleRequest (sha : Sha256) (requestId : Uuid) : ProviderAdmissionRequest where
  requestId := requestId
  providerId := "glm_flash_worker"
  projectBindingDigest := 3
  lane := .interactive
  runId := requestId + 100
  authorization := sampleReference sha "t1" 7
  plane := "t1"
  taskType := "review"
  taskDigest := 4
  memberDigest := none
  batchId := none
  providerTierBindingDigest := none

/-- The permit of a request granted at instant 2. -/
def samplePermit (sha : Sha256) (requestId : Uuid) (token : Nat) : ProviderAdmissionPermit where
  requestId := requestId
  providerId := "glm_flash_worker"
  projectBindingDigest := 3
  admissionLane := .interactive
  runId := requestId + 100
  authorityDigest := (sampleReference sha "t1" 7).digest
  authorityEpoch := 0
  taskDigest := 4
  memberDigest := none
  providerTierBindingDigest := none
  policyDigest := glmProviderAdmissionPolicy.policyDigest sha
  fencingToken := token
  acquiredAt := 2
  expiresAt := 60000002

/-- The authority of the resolutions. -/
def sampleResolution (sha : Sha256) : AuthorizationReference :=
  sampleReference sha "provider_admission_reconciliation" 8

/-- All clocks at one instant. -/
def clocksAt (now : Timestamp) : ClockReadings := ⟨now, now, now⟩

/-- A call that makes its checks and runs its transaction at one instant. -/
def called (kernel : ProviderAdmissionKernel) (call : KernelCall) (now : Timestamp) :
    List AdmissionAction :=
  [.prepare kernel call (clocksAt now), .commit 0 (clocksAt now)]

/-- A request is admitted and its transport starts. -/
def started (sha : Sha256) (requestId : Uuid) (token : Nat) : List AdmissionAction :=
  called sampleKernel (.tryAdmit (sampleRequest sha requestId) 60) 2 ++
    called sampleKernel
      (.beginTransport (samplePermit sha requestId token) (sampleRequest sha requestId)) 3

/-- A transport starts, and its outcome stays unknown. -/
def leftUnresolved (sha : Sha256) (requestId : Uuid) (token : Nat) : List AdmissionAction :=
  started sha requestId token ++
    called sampleKernel
      (.finish (samplePermit sha requestId token) ⟨some true, some false, none, true, 9⟩) 4

/-- A kernel, an authority for its requests and one for its resolutions. -/
def prepared (sha : Sha256) : List AdmissionAction :=
  [.install sampleKernel 0 0 0, .issue "t1" "operator" (sampleScope sha "t1") 1000 1 7,
    .issue "provider_admission_reconciliation" "operator"
      (sampleScope sha "provider_admission_reconciliation") 1000 1 8]

end AdmissionSystem
end Macr
