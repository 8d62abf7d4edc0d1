import Macr.ProviderAdmission.Transport

/-!
# Isolation of providers

Each provider has its own control row, receipts, projects and requests. An operation of one
provider's kernel leaves those of every other provider as they are, unless it is one of the four
operations that find their request by its identifier alone and are given another provider's.
-/

namespace Macr

open Lib ProviderAdmissionKernel

/-- Nothing of a provider has changed: its rows are the same, and no new receipt is about one of
its requests. -/
structure Isolated (provider : String) (before after : AdmissionTables) : Prop where
  /-- Its control row. -/
  states : Table.Agree (fun row => row.providerId = provider) before.states after.states
  /-- Its receipts. -/
  transitions : Table.Agree (fun row => row.providerId = provider) before.transitions
    after.transitions
  /-- Its projects. -/
  projects : Table.Agree (fun row => row.providerId = provider) before.projects after.projects
  /-- Its requests. -/
  requests : Table.Agree (fun row => row.providerId = provider) before.requests after.requests
  /-- New receipts are about other requests. -/
  receipts : ∀ receipt ∈ after.transitions.rows, receipt ∉ before.transitions.rows →
    ∀ request ∈ before.requests.rows, request.providerId = provider →
      receipt.requestId ≠ some request.requestId

namespace Isolated

variable {sha : Sha256} {kernel : ProviderAdmissionKernel} {provider other : String}
  {kind : EffectKind}

/-! ## What isolates a provider -/

/-- A provider is isolated from what changes neither of the four tables. -/
theorem of_same {before after : AdmissionTables} (states : after.states = before.states)
    (transitions : after.transitions = before.transitions)
    (projects : after.projects = before.projects) (requests : after.requests = before.requests) :
    Isolated other before after where
  states := states ▸ Table.Agree.refl _ _
  transitions := transitions ▸ Table.Agree.refl _ _
  projects := projects ▸ Table.Agree.refl _ _
  requests := requests ▸ Table.Agree.refl _ _
  receipts := fun _ held fresh => absurd (transitions ▸ held) fresh

/-- A provider isolated from two changes is isolated from both in turn. -/
theorem trans {before mid after : AdmissionTables} (earlier : Isolated other before mid)
    (later : Isolated other mid after) : Isolated other before after where
  states := earlier.states.trans later.states
  transitions := earlier.transitions.trans later.transitions
  projects := earlier.projects.trans later.projects
  requests := earlier.requests.trans later.requests
  receipts := by
    intro receipt held fresh request stored own
    by_cases seen : receipt ∈ mid.transitions.rows
    · exact earlier.receipts receipt seen fresh request stored own
    · exact later.receipts receipt held seen request ((earlier.requests request own).mpr stored) own

/-- A rewrite of a request isolates the other providers. -/
theorem of_rewrite {tables : AdmissionTables} {row : RequestRow} {progress : RequestProgress}
    (stored : row ∈ tables.requests.rows) (apart : row.providerId ≠ other) :
    Isolated other tables (tables.rewriteRequest row progress) where
  states := Table.Agree.refl _ _
  transitions := Table.Agree.refl _ _
  projects := Table.Agree.refl _ _
  requests := by
    refine Table.Agree.of_update rfl ?_
    intro found held named
    have same : found = row :=
      tables.requests.eq_of_key held stored (by simpa using named)
    subst same
    exact ⟨apart, apart⟩
  receipts := fun receipt held fresh => absurd held fresh

/-- A decrement isolates the other providers. -/
theorem of_decrement {tables next : AdmissionTables} {project : Digest} {now : Timestamp}
    (apart : provider ≠ other)
    (done : tables.decrementProject provider project now = .ok next) :
    Isolated other tables next := by
  simp only [AdmissionTables.decrementProject, bind_eq_ok, raiseIf_eq_ok, pure_eq_ok,
    exists_const] at done
  obtain ⟨_, rfl⟩ := done
  refine ⟨Table.Agree.refl _ _, Table.Agree.refl _ _, ?_, Table.Agree.refl _ _,
    fun receipt held fresh => absurd held fresh⟩
  refine Table.Agree.of_update rfl ?_
  intro row _ met
  have key : row.key = (provider, project) := (of_decide_eq_true met).1
  have owner : row.providerId = provider := (Prod.mk.inj key).1
  exact ⟨owner ▸ apart, owner ▸ apart⟩

/-- A grant's writes to its project and control row isolate the other providers. -/
theorem of_reserve (tables : AdmissionTables) (state : ControlRow)
    (request : ProviderAdmissionRequest) (now : Timestamp) (apart : request.providerId ≠ other) :
    Isolated other tables (reserve tables state request now) where
  states := by
    refine Table.Agree.of_update rfl ?_
    intro row _ met
    have owner : row.providerId = request.providerId := of_decide_eq_true met
    exact ⟨owner ▸ apart, owner ▸ apart⟩
  transitions := Table.Agree.refl _ _
  projects := by
    simp only [reserve, AdmissionTables.incrementProject]
    split
    · exact Table.Agree.of_append apart rfl
    · refine Table.Agree.of_update rfl ?_
      intro row _ met
      have key : row.key = (request.providerId, request.projectBindingDigest) :=
        of_decide_eq_true met
      have owner : row.providerId = request.providerId := (Prod.mk.inj key).1
      exact ⟨owner ▸ apart, owner ▸ apart⟩
  requests := Table.Agree.refl _ _
  receipts := fun receipt held fresh => absurd held fresh

/-- A receipt isolates the other providers, unless it is about their requests. -/
theorem of_appended {tables next : AdmissionTables} {body : ControlBody}
    (appended : Appended sha tables body next) (apart : body.providerId ≠ other)
    (about : ∀ request ∈ tables.requests.rows, request.providerId = other →
      body.requestId ≠ some request.requestId) : Isolated other tables next where
  states := by
    rw [appended.states]
    refine Table.Agree.of_update rfl ?_
    intro row _ met
    have owner : row.providerId = body.providerId := of_decide_eq_true met
    exact ⟨owner ▸ apart, owner ▸ apart⟩
  transitions := Table.Agree.of_append apart appended.transitions
  projects := appended.projects ▸ Table.Agree.refl _ _
  requests := appended.requests ▸ Table.Agree.refl _ _
  receipts := by
    intro receipt held fresh request stored own
    rw [appended.transitions, List.mem_append, List.mem_singleton] at held
    have new : receipt = receiptRow sha body := held.resolve_left fresh
    rw [new]
    exact about request stored own

/-- A stored policy isolates every provider. -/
theorem of_policy {tables mid : AdmissionTables} {policy : ProviderAdmissionPolicy}
    (stored : PolicyStored sha policy tables mid) : Isolated other tables mid :=
  of_same stored.states stored.transitions stored.projects stored.requests

/-! ## Effects -/

variable {before after : RuntimeDb}

/-- An effect isolates every provider that is neither its own nor its kernel's. -/
theorem of_effect (effect : Effect sha kernel provider kind before after)
    (apart : provider ≠ other) (apartKernel : kernel.policy.providerId ≠ other) :
    Isolated other before.admission after.admission := by
  have nothing : ∀ {body : ControlBody}, body.requestId = none →
      ∀ request ∈ before.admission.requests.rows, request.providerId = other →
        body.requestId ≠ some request.requestId := by
    intro body none_named request _ _
    simp [none_named]
  cases effect with
  | move stored own edge token => exact of_rewrite stored (own ▸ apart)
  | release stored own edge token decremented =>
    have requests := (AdmissionTables.decrementProject_eq_ok decremented).1.2.2.2
    exact (of_decrement (own ▸ apart) decremented).trans
      (of_rewrite (requests ▸ stored) (own ▸ apart))
  | enqueue own ownPolicy governs circuit probe inserted =>
    have rows := (insertRequest_rows inserted).1
    simp only [insertRequest, bind_eq_ok, require_eq_ok, pure_eq_ok] at inserted
    obtain ⟨_, _, _, _, rfl⟩ := inserted
    refine ⟨Table.Agree.refl _ _, Table.Agree.refl _ _, Table.Agree.refl _ _, ?_,
      fun receipt held fresh => absurd held fresh⟩
    exact Table.Agree.of_append (fun same => apart (own.symm.trans same)) rows
  | @grant _ state row request now own ownPolicy governs circuit probe stored named waiting
      matching =>
    have ownRow : row.providerId = provider := by
      simp only [rowMatchesRequest, decide_eq_true_eq] at matching
      exact matching.1.trans own
    have held : row ∈ (reserve before.admission state request now).requests.rows := stored
    rw [grant_admission stored named waiting]
    exact (of_reserve _ state request now (own ▸ apart)).trans (of_rewrite held (ownRow ▸ apart))
  | @receipt _ _ state change now tables row named governs stored own about target notHalfOpen stop
      appended =>
    refine of_appended appended apartKernel ?_
    intro request held owner same
    have named : some row.requestId = some request.requestId := about.symm.trans same
    have equal := before.admission.requests.eq_of_key stored held (Option.some.inj named)
    subst equal
    exact apart (own.symm.trans owner)
  | target governs wasClosed closed formed about idle appended =>
    exact of_appended appended apartKernel (nothing about)
  | halfOpen governs wasOpen halfOpen target about idle appended =>
    exact of_appended appended apartKernel (nothing about)
  | supersede governs notHalfOpen sameProvider closed formed about settled capacity projectCap
      policy appended =>
    refine (of_policy policy).trans (of_appended appended
      (fun same => apartKernel (sameProvider.symm.trans same)) ?_)
    rw [policy.requests]
    exact nothing about
  | @genesis _ change now mid tables absent closed formed about policy transitions states
      others =>
    refine (of_policy policy).trans ⟨Table.Agree.of_append apartKernel states,
      Table.Agree.of_append apartKernel transitions, others.2.1 ▸ Table.Agree.refl _ _,
      others.2.2 ▸ Table.Agree.refl _ _, ?_⟩
    intro receipt held fresh request stored _
    rw [transitions, List.mem_append, List.mem_singleton] at held
    rw [held.resolve_left fresh]
    simp [receiptRow, nextBody, about]
  | policy policy => exact of_policy policy
  | authority => exact of_same rfl rfl rfl rfl
  | token => exact of_same rfl rfl rfl rfl

/-- Effects in sequence isolate every provider that is neither theirs nor their kernel's. -/
theorem of_effects {kinds : List EffectKind}
    (effects : Effects sha kernel provider kinds before after) (apart : provider ≠ other)
    (apartKernel : kernel.policy.providerId ≠ other) :
    Isolated other before.admission after.admission := by
  refine effects.invariant (fun db => Isolated other before.admission db.admission) ?_
    (of_same rfl rfl rfl rfl)
  intro kind _ mid next held effect
  exact held.trans (of_effect effect apart apartKernel)

end Isolated

namespace ProviderAdmissionKernel

variable {sha : Sha256} {kernel : ProviderAdmissionKernel} {other : String}

/-! ## Calls -/

/-- The stored request a call finds by its identifier alone and accepts. -/
def acceptedRow (tables : AdmissionTables) : KernelCall → Option RequestRow
  | .cancelBeforeTransport permit => (tables.requests.find? permit.requestId).filter
      (fun row => permitMatchesRow permit row ∧ row.state = .granted)
  | .cancelWaiting requestId runId => (tables.requests.find? requestId).filter
      (fun row => row.runId = runId ∧ row.state = .waiting)
  | .finish permit _ => (tables.requests.find? permit.requestId).filter
      (fun row => permitMatchesRow permit row ∧ row.state = .dispatched)
  | .resolveReconciliation requestId _ _ => (tables.requests.find? requestId).filter
      (fun row => row.state = .reconciliationRequired)
  | _ => none

/-- The kernel's own control row lets the call act on the request it found. -/
def controlAllows (sha : Sha256) (kernel : ProviderAdmissionKernel) (tables : AdmissionTables) :
    KernelCall → Bool
  | .cancelWaiting _ _ => true
  | .resolveReconciliation _ _ _ =>
    match kernel.validatedState sha tables with
    | .ok state => state.circuitState ≠ .halfOpen
    | .error _ => false
  | _ => (kernel.validatedState sha tables).isOk

/-- The call acts on no other provider's request. -/
def Directed (sha : Sha256) (kernel : ProviderAdmissionKernel) (tables : AdmissionTables)
    (call : KernelCall) : Prop :=
  ∀ row ∈ acceptedRow tables call, controlAllows sha kernel tables call = true →
    row.providerId = kernel.policy.providerId

instance (tables : AdmissionTables) (call : KernelCall) :
    Decidable (Directed sha kernel tables call) :=
  decidable_of_iff ((acceptedRow tables call).all (fun row =>
      !controlAllows sha kernel tables call || row.providerId = kernel.policy.providerId) = true) (by
    simp [Directed, Option.all_eq_true, imp_iff_not_or])

/-- The request a directed call accepts is of the kernel's provider. -/
theorem Directed.own {tables : AdmissionTables} {call : KernelCall} {row : RequestRow}
    (directed : Directed sha kernel tables call) (accepted : acceptedRow tables call = some row)
    (allowed : controlAllows sha kernel tables call = true) :
    row.providerId = kernel.policy.providerId := directed row accepted allowed

/-- A call other than a transport start that commits is applied to its own provider's permit or
request where it is directed. -/
theorem own_of_directed {db : RuntimeDb} {clocks : ClockReadings} {call : KernelCall}
    {result : Committed RuntimeDb CallResult} (done : kernel.transact sha db clocks call = .ok result)
    (directed : Directed sha kernel db.admission call)
    (notStart : ∀ permit request, call ≠ .beginTransport permit request) :
    OwnArguments kernel db.admission call := by
  cases call with
  | tryAdmit | activateTarget | activateHalfOpen | supersedePolicy => trivial
  | beginTransport permit request => exact absurd rfl (notStart permit request)
  | cancelBeforeTransport permit =>
    obtain ⟨inner, committed, rfl⟩ := except_map_eq_ok.mp done
    simp only [cancelBeforeTransport, bind_eq_ok, requirePermitRow_eq_ok, raiseIf_eq_ok,
      exists_const, ne_eq, not_not] at committed
    obtain ⟨state, valid, row, ⟨stored, same, matching⟩, granted, _⟩ := committed
    have found := (db.admission.requests.find?_eq_some permit.requestId row).mpr ⟨stored, same⟩
    have own : row.providerId = kernel.policy.providerId := directed.own
      (by simp [acceptedRow, found, Option.filter, matching, granted])
      (by simp [controlAllows, valid, Except.isOk, Except.toBool])
    simp only [permitMatchesRow, decide_eq_true_eq] at matching
    exact matching.1.symm.trans own
  | finish permit report =>
    obtain ⟨inner, committed, rfl⟩ := except_map_eq_ok.mp done
    simp only [finish, bind_eq_ok, requirePermitRow_eq_ok, raiseIf_eq_ok,
      exists_const, ne_eq, not_not] at committed
    obtain ⟨state, valid, row, ⟨stored, same, matching⟩, dispatched, _⟩ := committed
    have found := (db.admission.requests.find?_eq_some permit.requestId row).mpr ⟨stored, same⟩
    have own : row.providerId = kernel.policy.providerId := directed.own
      (by simp [acceptedRow, found, Option.filter, matching, dispatched])
      (by simp [controlAllows, valid, Except.isOk, Except.toBool])
    simp only [permitMatchesRow, decide_eq_true_eq] at matching
    exact matching.1.symm.trans own
  | cancelWaiting requestId runId =>
    intro row stored same
    obtain ⟨inner, committed, rfl⟩ := except_map_eq_ok.mp done
    have found := (db.admission.requests.find?_eq_some requestId row).mpr ⟨stored, same⟩
    simp only [cancelWaiting, found, bind_eq_ok, raiseIf_eq_ok, exists_const, ne_eq, not_not]
      at committed
    obtain ⟨run, waiting, _⟩ := committed
    exact directed.own (by simp [acceptedRow, found, Option.filter, run, waiting]) rfl
  | resolveReconciliation requestId reference evidence =>
    intro row stored same
    obtain ⟨inner, committed, rfl⟩ := except_map_eq_ok.mp done
    have found := (db.admission.requests.find?_eq_some requestId row).mpr ⟨stored, same⟩
    simp only [resolveReconciliation, found, bind_eq_ok, require_eq_ok,
      Option.filter_eq_some_iff, Option.some.injEq, decide_eq_true_eq] at committed
    obtain ⟨state, valid, _, ⟨rfl, unresolved⟩, tables, decremented, ⟨next, final⟩, appended, _⟩ :=
      committed
    -- A half-open circuit needs a probe, which a resolution's receipt does not name.
    have probe := (appendControlTransition_eq_ok appended).2.2.1.probe
    have notHalfOpen : state.circuitState ≠ .halfOpen := by
      simpa [resolutionChange] using probe
    exact directed.own
      (by simp [acceptedRow, found, Option.filter, unresolved])
      (by simp [controlAllows, valid, notHalfOpen])

/-- The transaction of a directed call isolates every other provider. -/
theorem isolated_of_transact {db : RuntimeDb} {clocks : ClockReadings} {call : KernelCall}
    {result : Committed RuntimeDb CallResult} (capacity : CapacityInvariant db.admission)
    (named : PolicyNamed db.admission) (known : PolicyKnown sha db.admission kernel.policy)
    (prepared : Prepared sha kernel call)
    (done : kernel.transact sha db clocks call = .ok result)
    (directed : Directed sha kernel db.admission call)
    (apart : kernel.policy.providerId ≠ other) :
    Isolated other db.admission result.1.admission := by
  by_cases starts : ∃ permit request, call = .beginTransport permit request
  · -- A transport start cancels or dispatches only a request under its own policy.
    obtain ⟨permit, request, rfl⟩ := starts
    obtain ⟨inner, committed, rfl⟩ := except_map_eq_ok.mp done
    obtain ⟨before, mid, state, row, expired, _, _, stored, _, _, outcome⟩ :=
      beginTransport_eq_ok committed
    have first : Isolated other db.admission mid.admission :=
      Isolated.of_effects expired.effects apart apart
    rcases outcome with ⟨error, same⟩ | ⟨repeats, outcome⟩
    · simp only [reported, same]
      exact first
    · have own := own_of_repeats capacity named known expired stored repeats
      have rowApart : row.providerId ≠ other := own ▸ apart
      rcases outcome with ⟨_, effects⟩ | ⟨_, started, _⟩
      · exact first.trans (Isolated.of_effects effects rowApart apart)
      · simp only [reported, started]
        exact first.trans (Isolated.of_rewrite stored rowApart)
  · have own := own_of_directed done directed
      (fun permit request same => starts ⟨permit, request, same⟩)
    obtain ⟨provider, chosen, mid, first, second⟩ := transact_effects prepared done
    exact (Isolated.of_effects first apart apart).trans
      (Isolated.of_effects second (chosen own ▸ apart) apart)

end ProviderAdmissionKernel

namespace AdmissionSystem

open ProviderAdmissionKernel

variable {sha : Sha256} {system : AdmissionSystem} {action : AdmissionAction}

/-! ## Runs -/

/-- The kernel that acts in a step. -/
def actingKernel (system : AdmissionSystem) : AdmissionAction → Option ProviderAdmissionKernel
  | .install kernel _ _ _ => some kernel
  | .prepare kernel _ _ => some kernel
  | .commit index _ => system.pending[index]?.map (·.kernel)
  | _ => none

/-- The step isolates every provider but the acting kernel's. -/
def IsolatedStep (x : Machine.Step AdmissionSystem AdmissionAction) : Prop :=
  ∀ provider, (∀ kernel ∈ actingKernel x.before x.action, kernel.policy.providerId ≠ provider) →
    Isolated provider x.before.db.admission x.after.db.admission

/-- A transaction of a call runs only where the call is directed. -/
def DirectedAction (sha : Sha256) (system : AdmissionSystem) : AdmissionAction → Prop
  | .commit index _ => ∀ pending ∈ system.pending[index]?,
    Directed sha pending.kernel system.db.admission pending.call
  | _ => True

instance (system : AdmissionSystem) :
    (action : AdmissionAction) → Decidable (DirectedAction sha system action)
  | .commit index _ =>
    decidable_of_iff ((system.pending[index]?).all (fun pending =>
        Directed sha pending.kernel system.db.admission pending.call) = true)
      (by simp [DirectedAction, Option.all_eq_true])
  | .install _ _ _ _ | .prepare _ _ _ | .issue _ _ _ _ _ _ | .revoke _ _ | .advanceEpoch _ _ _
  | .drawToken => isTrue trivial

/-- A step whose call is directed isolates the other providers. -/
theorem isolated_step (inv : GateInvariant sha system) (directed : DirectedAction sha system action) :
    IsolatedStep ⟨system, action, step sha system action⟩ := by
  intro other apart
  have still : ∀ {next : RuntimeDb}, next.admission = system.db.admission →
      Isolated other system.db.admission next.admission :=
    fun same => same ▸ Isolated.of_same rfl rfl rfl rfl
  cases action with
  | install kernel nonterminalRuns activeDispatchLeases now =>
    have apartKernel : kernel.policy.providerId ≠ other := apart kernel rfl
    simp only [step]
    split
    · rename_i result installed
      rcases installPolicy_eq_ok installed kernel.policy.providerId with effect | effect
      · exact Isolated.of_effect effect apartKernel apartKernel
      · exact Isolated.of_effect effect apartKernel apartKernel
    · exact still rfl
  | prepare kernel call clocks =>
    simp only [step]
    split <;> exact still rfl
  | commit index clocks =>
    simp only [step]
    split
    · rename_i call outcome found
      obtain ⟨member, done⟩ := transaction_eq_some found
      have at_index : system.pending[index]? = some call := by
        simp only [transaction, Option.map_eq_some_iff, Prod.mk.injEq] at found
        obtain ⟨pending, held, rfl, _⟩ := found
        exact held
      have apartKernel : call.kernel.policy.providerId ≠ other :=
        apart call.kernel (by simp [actingKernel, at_index])
      cases outcome with
      | error error => exact still rfl
      | ok result =>
        obtain ⟨constructed, prepared⟩ := inv.sound.pending call member
        exact isolated_of_transact inv.capacity inv.named (inv.sound.known _ constructed) prepared
          done.symm (directed call at_index) apartKernel
    · exact still rfl
  | issue | revoke | advanceEpoch | drawToken => exact still rfl

/-- In every run in which each call that finds its request by identifier alone and accepts it is
directed to its own provider's, every step isolates the other providers. -/
theorem provider_isolation (sha : Sha256) (actions : List AdmissionAction)
    (directed : (machine sha).Obeys (DirectedAction sha) .initial actions) :
    ∀ x ∈ (machine sha).steps .initial actions, IsolatedStep x := by
  intro x member
  have keep : ∀ system action, GateInvariant sha system → DirectedAction sha system action →
      GateInvariant sha ((machine sha).step system action) :=
    fun _ action held _ => gateInvariant_step held action
  obtain ⟨inv, met, after⟩ :=
    (machine sha).steps_invariant keep gateInvariant_initial directed x member
  obtain ⟨system, action, next⟩ := x
  have next_eq : next = step sha system action := after
  subst next_eq
  exact isolated_step inv met

/-- A kernel of another provider. -/
def grokKernel : ProviderAdmissionKernel := ⟨0, grokProviderAdmissionPolicy, .offlineTest⟩

/-- A run of two kernels in which a request of the first is dispatched. -/
def twoKernels : List AdmissionAction :=
  .install grokKernel 0 0 0 :: prepared foldDigest ++ started foldDigest 1 1

/-- The second kernel is asked to finish the request of the first. -/
def finishedByOther : List AdmissionAction :=
  twoKernels ++ [.prepare grokKernel
    (.finish (samplePermit foldDigest 1 1) ⟨some true, some true, some 200, true, 9⟩) (clocksAt 4)]

/-- A stored request's provider and state. -/
def requestSeen (system : AdmissionSystem) (requestId : Uuid) : Option (String × RequestState) :=
  (system.db.admission.requests.find? requestId).map (fun row => (row.providerId, row.state))

/-- A step that isolates a provider shows the same state of its requests before and after. -/
theorem requestSeen_of_isolated {before after : AdmissionSystem} {provider : String}
    {requestId : Uuid} {old new : RequestState}
    (isolated : Isolated provider before.db.admission after.db.admission)
    (seen : requestSeen before requestId = some (provider, old))
    (seenAfter : requestSeen after requestId = some (provider, new)) : new = old := by
  simp only [requestSeen, Option.map_eq_some_iff, Table.find?_eq_some, Prod.mk.injEq] at seen seenAfter
  obtain ⟨row, ⟨stored, named⟩, owner, is_old⟩ := seen
  obtain ⟨next, ⟨nextStored, nextNamed⟩, nextOwner, is_new⟩ := seenAfter
  have held : next ∈ before.db.admission.requests.rows :=
    (isolated.requests next nextOwner).mp nextStored
  have same : next = row :=
    before.db.admission.requests.eq_of_key held stored (nextNamed.trans named.symm)
  rw [← is_old, ← is_new, same]

/-- The second kernel finishes the request of the first. -/
theorem provider_not_isolated :
    ¬∀ actions, ∀ x ∈ (machine foldDigest).steps .initial actions, IsolatedStep x := by
  intro always
  have steps := always (finishedByOther ++ [.commit 0 (clocksAt 4)])
  rw [Machine.steps_append] at steps
  have last := steps _ (List.mem_append_right _ (List.mem_singleton.mpr rfl))
  have acting : ∀ kernel ∈ actingKernel ((machine foldDigest).run .initial finishedByOther)
      (.commit 0 (clocksAt 4)), kernel.policy.providerId ≠ "glm_flash_worker" := by decide +kernel
  have seen : requestSeen ((machine foldDigest).run .initial finishedByOther) 1 =
      some ("glm_flash_worker", .dispatched) := by decide +kernel
  have seenAfter : requestSeen ((machine foldDigest).step
      ((machine foldDigest).run .initial finishedByOther) (.commit 0 (clocksAt 4))) 1 =
      some ("glm_flash_worker", .completed) := by decide +kernel
  have same := requestSeen_of_isolated (last "glm_flash_worker" acting) seen seenAfter
  exact absurd same (by decide)

/-- Both kernels call, each for its own provider's requests. -/
theorem provider_isolation_of_two :
    (machine foldDigest).Obeys (DirectedAction foldDigest) .initial (twoKernels ++
        called sampleKernel
          (.finish (samplePermit foldDigest 1 1) ⟨some true, some true, some 200, true, 9⟩) 4) ∧
      ∀ x ∈ (machine foldDigest).steps .initial (twoKernels ++ called sampleKernel
          (.finish (samplePermit foldDigest 1 1) ⟨some true, some true, some 200, true, 9⟩) 4),
        IsolatedStep x := by
  have directed : (machine foldDigest).Obeys (DirectedAction foldDigest) .initial (twoKernels ++
      called sampleKernel
        (.finish (samplePermit foldDigest 1 1) ⟨some true, some true, some 200, true, 9⟩) 4) := by
    decide +kernel
  exact ⟨directed, provider_isolation foldDigest _ directed⟩

end AdmissionSystem
end Macr
