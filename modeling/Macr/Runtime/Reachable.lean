import Macr.Accounting.Outbox
import Macr.CanonicalCode
import Macr.ProviderAdmission.Transport
import Macr.Runtime.System

/-!
# Reachable worlds

The runtime as a machine: invocations of any calls, whatever fails in them, and between them any
step of the admission kernels and of the authority store. In every reachable world the admission
tables keep their invariants, and what the vault and accounting hold of a run is of a run that the
event log has.
-/

namespace Macr

open Lib ProviderAdmissionKernel Raising

/-! ## The machine -/

/-- The steps of the runtime. -/
inductive RuntimeAction where
  /-- An invocation runs to its end. -/
  | invoke (call : Invocation)
  /-- A kernel or the authority store takes a step. -/
  | admission (action : AdmissionAction)

namespace RuntimeWorld

/-- The kernels of a call's directory are constructed on the database. -/
def Serves (world : RuntimeWorld) (call : Invocation) : Prop :=
  ∀ kernel ∈ call.answers.directory, kernel ∈ world.admission.kernels

instance (world : RuntimeWorld) (call : Invocation) : Decidable (world.Serves call) :=
  inferInstanceAs (Decidable (∀ kernel ∈ call.answers.directory, kernel ∈ world.admission.kernels))

variable (kernel : AccountingKernel) (hashes : Hashes)

/-- One step. -/
def step (world : RuntimeWorld) : RuntimeAction → RuntimeWorld
  | .invoke call => if world.Serves call then (invoke kernel hashes call world).2 else world
  | .admission action =>
    { world with admission := AdmissionSystem.step kernel.sha world.admission action }

/-- The runtime as a machine. -/
def machine : Machine RuntimeWorld RuntimeAction := ⟨step kernel hashes⟩

/-! ## What holds in every reachable world -/

/-- The event log has the run. -/
def HasRun (world : RuntimeWorld) (runId : Uuid) : Prop :=
  ∃ row ∈ world.log.runs.rows, row.runId = runId

/-- What is stored of a run is of a run that the event log has. -/
structure Logged (world : RuntimeWorld) : Prop where
  /-- Files are of runs. -/
  files : ∀ file ∈ world.vault.files.rows, world.HasRun file.runId
  /-- Captures are of runs. -/
  captures : ∀ row ∈ world.vault.captures.rows, world.HasRun row.runId
  /-- Invocations are of runs. -/
  invocations : ∀ row ∈ world.accounting.invocations.rows, world.HasRun row.runId
  /-- Their copies are of invocations. -/
  outbox : AccountingDb.OutboxLaid world.accounting

/-- What every step keeps. -/
structure Lawful (sha : Sha256) (world : RuntimeWorld) : Prop where
  /-- The admission system keeps the invariants of the transport gate. -/
  gate : AdmissionSystem.GateInvariant sha world.admission
  /-- Receipts are linked. -/
  chain : ∀ provider, ProviderChain sha world.admission.db.admission provider
  /-- What is stored of a run is of a run of the log. -/
  logged : world.Logged

variable {kernel hashes} {call : Invocation} {world : RuntimeWorld} {runId : Uuid}

/-- A new world is lawful. -/
theorem lawful_initial {sha : Sha256} : Lawful sha .initial where
  gate := AdmissionSystem.gateInvariant_initial
  chain := fun _ => chain_initial
  logged :=
    { files := fun _ member => absurd member List.not_mem_nil
      captures := fun _ member => absurd member List.not_mem_nil
      invocations := fun _ member => absurd member List.not_mem_nil
      outbox := AccountingDb.outboxLaid_initial }

/-! ## The admission tables -/

/-- What every entitled effect keeps of the database, an invocation keeps, and it constructs no
kernel. -/
structure AdmissionKept (sha : Sha256) (directory : List ProviderAdmissionKernel)
    (before after : RuntimeWorld) : Prop where
  /-- No kernel is constructed. -/
  kernels : after.admission.kernels = before.admission.kernels
  /-- No call is left pending. -/
  pending : after.admission.pending = before.admission.pending
  /-- Every invariant of the effects is kept. -/
  kept : ∀ Inv : RuntimeDb → Prop,
    (∀ kernel provider kind first last, Entitled sha kernel kind first → Inv first →
      Effect sha kernel provider kind first last → Inv last) →
    (∀ kernel ∈ directory, PolicyKnown sha before.admission.db.admission kernel.policy) →
    Inv before.admission.db → Inv after.admission.db

/-- An admission system that stays keeps everything. -/
theorem AdmissionKept.of_same {sha : Sha256} {directory : List ProviderAdmissionKernel}
    {before after : RuntimeWorld} (same : after.admission = before.admission) :
    AdmissionKept sha directory before after where
  kernels := by rw [same]
  pending := by rw [same]
  kept := fun Inv _ _ held => by rwa [same]

/-- The kernel calls keep it. -/
theorem admissionKept_upheld (sha : Sha256) (call : Invocation) :
    UpheldKernels sha call (AdmissionKept sha call.answers.directory) where
  refl := fun world => .of_same rfl
  trans := by
    intro first mid last early late
    refine ⟨late.kernels.trans early.kernels, late.pending.trans early.pending, ?_⟩
    intro Inv keep known held
    refine late.kept Inv keep (fun kernel listed => ?_) (early.kept Inv keep known held)
    exact early.kept (fun db => PolicyKnown sha db.admission kernel.policy)
      (fun _ _ _ _ _ _ held effect => PolicyKnown.of_effect held effect) known (known kernel listed)
  called := by
    intro world kernel asked clocks done listed prepared committed
    refine ⟨rfl, rfl, fun Inv keep known held => ?_⟩
    obtain ⟨provider, _, effects⟩ := transact_effects (prepared_of_prepare prepared) committed
    exact effects.invariant Inv (fun provider kind _ => keep kernel provider kind)
      (known kernel listed) held

/-- So do the calls of the stores. -/
theorem admissionKept_stores (kernel : AccountingKernel) (hashes : Hashes) (call : Invocation)
    (runId : Uuid) :
    UpheldStores kernel hashes call runId (AdmissionKept kernel.sha call.answers.directory) where
  toUpheldKernels := admissionKept_upheld kernel.sha call
  started := fun _ => .of_same rfl
  dispatchRecorded := fun _ => .of_same rfl
  filed := fun _ => .of_same rfl
  captured := fun _ _ _ => .of_same rfl
  observed := fun _ => .of_same rfl
  terminalRecorded := fun _ => .of_same rfl
  finished := fun _ => .of_same rfl

/-- And so do the calls of the leases, which draw a token at most. -/
theorem admissionKept_leases (sha : Sha256) (call : Invocation) (runId : Uuid) :
    UpheldLeases call runId (AdmissionKept sha call.answers.directory) where
  acquired := by
    intro world now done acquired
    obtain ⟨permit, _, ⟨_, _, same⟩ | ⟨_, creates⟩⟩ := DispatchLeaseDb.acquire_eq_ok acquired
    · rw [same]
      exact .of_same rfl
    · refine ⟨rfl, rfl, fun Inv keep _ held => ?_⟩
      show Inv { world.admission.db with fencingCounter := done.1.fencingCounter }
      rw [creates.counter]
      exact keep ⟨0, glmProviderAdmissionPolicy, .offlineTest⟩ "" .token _ _ (Or.inl (by decide)) held
        Effect.token
  released := by
    intro world done permit released
    obtain ⟨row, _, _, same⟩ := DispatchLeaseDb.release_eq_ok released
    rw [same]
    exact .of_same rfl

/-- An invocation keeps the invariants of the admission tables. -/
theorem admissionKept_invoke (kernel : AccountingKernel) (hashes : Hashes) (call : Invocation)
    (world : RuntimeWorld) :
    AdmissionKept kernel.sha call.answers.directory world (invoke kernel hashes call world).2 := by
  have stores := admissionKept_stores kernel hashes call call.context.runId
  have leases := admissionKept_leases kernel.sha call call.context.runId
  refine keeps_invokeBody stores.toUpheldKernels leases rfl (fun context fencingToken named => ?_)
    ⟨world, call.permit, none, false⟩
  unfold dispatched
  exact stores.bind (stores.dispatchPart named _) fun outcome => stores.afterProvider named outcome

/-! ## What is stored of a run -/

/-- The event log, the vault and accounting stay. -/
def StoresKept (before after : RuntimeWorld) : Prop :=
  after.log = before.log ∧ after.vault = before.vault ∧ after.accounting = before.accounting

/-- The kernel calls leave the other stores alone. -/
theorem storesKept_upheld (sha : Sha256) (call : Invocation) :
    UpheldKernels sha call StoresKept where
  refl := fun _ => ⟨rfl, rfl, rfl⟩
  trans := fun early late => ⟨late.1.trans early.1, late.2.1.trans early.2.1,
    late.2.2.trans early.2.2⟩
  called := fun _ _ _ => ⟨rfl, rfl, rfl⟩

/-- Runs are not lost, and what is stored of a run that the log has keeps the world logged. -/
def LoggedKept (runId : Uuid) (before after : RuntimeWorld) : Prop :=
  (∀ other, before.HasRun other → after.HasRun other) ∧
    (before.HasRun runId → before.Logged → after.Logged)

/-- Stores that stay keep a world logged. -/
theorem Logged.of_kept {before after : RuntimeWorld} (logged : before.Logged)
    (runs : ∀ other, before.HasRun other → after.HasRun other)
    (vault : after.vault = before.vault) (accounting : after.accounting = before.accounting) :
    after.Logged where
  files := fun file member => runs _ (logged.files file (vault ▸ member))
  captures := fun row member => runs _ (logged.captures row (vault ▸ member))
  invocations := fun row member => runs _ (logged.invocations row (accounting ▸ member))
  outbox := accounting ▸ logged.outbox

/-- A change of accounting that adds rows of a run of the log alone keeps a world logged. -/
theorem Logged.of_accounting {world : RuntimeWorld} {accounting : AccountingDb}
    (logged : world.Logged) (has : world.HasRun runId)
    (rows : ∀ row ∈ accounting.invocations.rows,
      row.runId = runId ∨ ∃ old ∈ world.accounting.invocations.rows, old.runId = row.runId)
    (outbox : AccountingDb.OutboxLaid accounting) :
    { world with accounting := accounting }.Logged where
  files := logged.files
  captures := logged.captures
  invocations := by
    intro row member
    rcases rows row member with same | ⟨old, held, same⟩
    · rw [same]
      exact has
    · rw [← same]
      exact logged.invocations old held
  outbox := outbox

/-- An update of an invocation keeps the runs of the rows. -/
theorem rows_of_update {before after : AccountingDb} {assign : InvocationRow → InvocationRow}
    {keeps : ∀ row, (assign row).runId = row.runId}
    (written : after.invocations = (before.updateInvocation runId assign keeps).invocations) :
    ∀ row ∈ after.invocations.rows,
      row.runId = runId ∨ ∃ old ∈ before.invocations.rows, old.runId = row.runId := by
  intro row member
  rw [written] at member
  obtain ⟨old, held, rfl⟩ := (before.invocations.mem_update _ assign keeps row).mp member
  refine .inr ⟨old, held, ?_⟩
  split
  · exact (keeps old).symm
  · rfl

/-- Every call keeps a world logged while the log has the run. -/
theorem loggedKept_upheld (kernel : AccountingKernel) (hashes : Hashes) (call : Invocation)
    (runId : Uuid) : UpheldStores kernel hashes call runId (LoggedKept runId) where
  refl := fun _ => ⟨fun _ has => has, fun _ logged => logged⟩
  trans := fun early late => ⟨fun other has => late.1 other (early.1 other has),
    fun has logged => late.2 (early.1 _ has) (early.2 has logged)⟩
  called := fun _ _ _ => ⟨fun _ has => has, fun _ logged => logged.of_kept (fun _ has => has) rfl rfl⟩
  started := by
    intro world now payload done started
    have written := (EventLog.startRun_eq_ok started).1
    have runs : ∀ other, world.HasRun other → HasRun { world with log := done.1 } other := by
      rintro other ⟨row, held, named⟩
      exact ⟨row, written.runs ▸ List.mem_append_left _ held, named⟩
    exact ⟨runs, fun _ logged => logged.of_kept runs rfl rfl⟩
  dispatchRecorded := by
    intro world now context done recorded
    refine ⟨fun _ has => has, fun has logged => logged.of_accounting has ?_ ?_⟩
    · obtain ⟨_, ⟨same, _⟩ | ⟨_, _, fresh, written⟩⟩ := AccountingDb.recordDispatch_eq_ok recorded
      · intro row member
        exact .inr ⟨row, same ▸ member, rfl⟩
      · intro row member
        rw [written] at member
        rcases List.mem_append.mp member with old | new
        · exact .inr ⟨row, old, rfl⟩
        · rw [List.mem_singleton] at new
          exact .inl (by rw [new]; rfl)
    · have effect : AccountingDb.InvocationEffect kernel world.accounting now
          (.markSoftWarning runId) done.1 :=
        AccountingDb.effect_of_recordDispatch (except_map_eq_ok.mpr ⟨done, recorded, rfl⟩)
      exact AccountingDb.outboxLaid_of_effect logged.outbox effect
  filed := by
    intro world answer done written
    refine ⟨fun _ has => has, fun has logged =>
      ⟨?_, ?_, logged.invocations, logged.outbox⟩⟩
    · intro file member
      obtain ⟨_, _, ⟨same, _⟩ | ⟨_, rows⟩⟩ := CandidateVault.writeOnce_eq_ok written
      · exact logged.files file (same ▸ member)
      · rw [rows] at member
        rcases List.mem_append.mp member with old | new
        · exact logged.files file old
        · rw [List.mem_singleton] at new
          rw [new]
          exact has
    · intro row member
      exact logged.captures row ((CandidateVault.writeOnce_eq_ok written).2.1 ▸ member)
  captured := by
    intro world row done named _ recorded
    obtain ⟨files, wrote⟩ := CandidateVault.recordCapture_eq_ok recorded
    refine ⟨fun _ has => has, fun has logged =>
      ⟨fun file member => logged.files file (files ▸ member), ?_, logged.invocations,
        logged.outbox⟩⟩
    intro other member
    rcases wrote with ⟨existing, _, _, rfl⟩ | ⟨_, _, _, rows⟩
    · exact logged.captures other member
    · rw [rows] at member
      rcases List.mem_append.mp member with old | new
      · exact logged.captures other old
      · rw [List.mem_singleton] at new
        rw [new, named]
        exact has
  observed := by
    intro world observation done observed
    simp only [recordObservationBound, bind_eq_ok, raiseIf_eq_ok, exists_const, pure_eq_ok] at observed
    obtain ⟨result, recorded, _, rfl⟩ := observed
    refine ⟨fun _ has => has, fun has logged => logged.of_accounting has ?_ ?_⟩
    · obtain ⟨_, _, _, _, ⟨_, _, same⟩ | ⟨_, same⟩⟩ := AccountingDb.recordObservation_eq_ok recorded
      · intro row member
        exact .inr ⟨row, same ▸ member, rfl⟩
      · exact rows_of_update (congrArg _ same)
    · have effect : AccountingDb.InvocationEffect kernel world.accounting 0
          (.markSoftWarning runId) result.1 :=
        AccountingDb.effect_of_recordObservation (except_map_eq_ok.mpr ⟨result, recorded, rfl⟩)
      exact AccountingDb.outboxLaid_of_effect logged.outbox effect
  terminalRecorded := by
    intro world now status billing code stage done recorded
    refine ⟨fun _ has => has, fun has logged => logged.of_accounting has ?_ ?_⟩
    · obtain ⟨_, values, _, _, ⟨_, _, same⟩ | ⟨_, _, _, fresh, same⟩⟩ :=
        AccountingDb.recordTerminal_eq_ok recorded
      · intro row member
        exact .inr ⟨row, same ▸ member, rfl⟩
      · rw [same]
        exact @rows_of_update _ _ _ _ (values.runId_apply now) rfl
    · exact AccountingDb.outboxLaid_of_effect logged.outbox
        (AccountingDb.effect_of_recordTerminal (except_map_eq_ok.mpr ⟨done, recorded, rfl⟩))
  finished := by
    intro world now status payload done finished
    have written := (EventLog.finishRun_eq_ok finished).1
    have runs : ∀ other, world.HasRun other → HasRun { world with log := done.1 } other := by
      rintro other ⟨row, held, named⟩
      show ∃ row ∈ done.1.runs.rows, _
      rw [written.runs]
      refine ⟨_, Table.mem_update_of_mem _ _
        (EventLog.finishedRow call.terminalEventId (strip status) now) (fun _ => rfl) held, ?_⟩
      split <;> exact named
    exact ⟨runs, fun _ logged => logged.of_kept runs rfl rfl⟩

/-- What keeps the stores keeps a world logged. -/
theorem logged_upheld (sha : Sha256) (call : Invocation) :
    UpheldKernels sha call (fun before after => before.Logged → after.Logged) where
  refl := fun _ logged => logged
  trans := fun early late logged => late (early logged)
  called := fun _ _ _ logged => logged.of_kept (fun _ has => has) rfl rfl

/-- The leases keep a world logged. -/
theorem logged_leases (call : Invocation) (runId : Uuid) :
    UpheldLeases call runId (fun before after => before.Logged → after.Logged) where
  acquired := fun _ logged => logged.of_kept (fun _ has => has) rfl rfl
  released := fun _ logged => logged.of_kept (fun _ has => has) rfl rfl

/-- A started run is in the log. -/
theorem hasRun_of_startRun {state left : InvokeState} {context : RunContext} {now : Timestamp}
    {payload : Payload} {value : Unit}
    (started : onLog call .startRun (fun log => log.startRun now context.runId
      call.dispatchEventId payload) state = (.ok value, left)) :
    left.world.HasRun context.runId := by
  obtain ⟨_, log, written, rfl⟩ := onLog_eq_ok.mp started
  have runs := (EventLog.startRun_eq_ok written).1.runs
  exact ⟨_, runs ▸ List.mem_append_right _ (List.mem_singleton.mpr rfl), rfl⟩

/-- Nothing of a started run is lost by the record of its dispatch. -/
theorem hasRun_of_recordDispatches {sha : Sha256} {context : RunContext} {fencingToken : Nat}
    {state left : InvokeState}
    (recorded : recordDispatches sha call context fencingToken state = (.ok (), left)) :
    left.world.HasRun context.runId := by
  simp only [recordDispatches, seq_eq_ok, Raising.pure_eq_ok, onAccounting_eq_ok] at recorded
  obtain ⟨_, mid, started, _, _, ⟨_, accounting, _, rfl⟩, _, rfl⟩ := recorded
  have has : mid.world.HasRun context.runId := hasRun_of_startRun started
  exact has

/-- What a part of an invocation keeps of the stores, it keeps of the runs. -/
theorem hasRun_of_storesKept {before after : RuntimeWorld} (kept : StoresKept before after)
    (has : before.HasRun runId) : after.HasRun runId := by
  obtain ⟨row, held, named⟩ := has
  exact ⟨row, kept.1.symm ▸ held, named⟩

/-- The log has the run of a provider that was called. -/
theorem hasRun_of_dispatchPart {sha : Sha256} {context : RunContext} {fencingToken : Nat}
    {state left : InvokeState} {outcome : Except ProviderRaise ProviderExecution}
    (called : dispatchPart sha call context fencingToken state = (.ok outcome, left)) :
    left.world.HasRun context.runId := by
  simp only [dispatchPart, seq_eq_ok, Raising.read_eq_ok] at called
  obtain ⟨request, _, _, _, mid, recorded, permit, _, ⟨_, rfl⟩, ended⟩ := called
  have kept : StoresKept mid.world (startTransport sha call request permit mid).2.world :=
    (storesKept_upheld sha call).startTransport request permit mid
  rw [ended] at kept
  exact hasRun_of_storesKept kept (hasRun_of_recordDispatches recorded)

/-- What is done under the lease keeps a world logged. -/
theorem logged_dispatched (kernel : AccountingKernel) (hashes : Hashes) (call : Invocation)
    (context : RunContext) (fencingToken : Nat) :
    Keeps (worldly (fun before after => before.Logged → after.Logged))
      (dispatched kernel hashes call context fencingToken) := by
  have kernels := logged_upheld kernel.sha call
  have stores := loggedKept_upheld kernel hashes call context.runId
  have : IsTrans InvokeState (worldly (fun before after => before.Logged → after.Logged)) :=
    ⟨fun _ _ _ => kernels.trans⟩
  unfold dispatched dispatchPart recordDispatches
  refine keeps_bind_of ?_ fun state outcome reached called => ?_
  · refine kernels.bind (kernels.obtainAdmission context) fun request => ?_
    refine keeps_bind_of ?_ fun _ _ reached _ =>
      kernels.bind (kernels.read _) (fun permit => kernels.startTransport request permit) reached
    -- Accounting is written once the run has been started.
    refine keeps_bind_of (keeps_onLog kernels.refl fun world done started logged => ?_)
      fun _ _ reached started => ?_
    · exact logged.of_kept (stores.started started).1 rfl rfl
    · exact (stores.bind (keeps_onAccounting stores.refl fun _ _ => stores.dispatchRecorded)
        (fun _ => stores.pure ()) reached).2 (hasRun_of_startRun started)
  · exact (stores.afterProvider rfl outcome reached).2 (hasRun_of_dispatchPart called)

/-- An invocation keeps a world logged. -/
theorem logged_invoke (kernel : AccountingKernel) (hashes : Hashes) (call : Invocation)
    (logged : world.Logged) : (invoke kernel hashes call world).2.Logged :=
  keeps_invokeBody (logged_upheld kernel.sha call) (logged_leases call call.context.runId) rfl
    (fun context fencingToken _ => logged_dispatched kernel hashes call context fencingToken)
    ⟨world, call.permit, none, false⟩ logged

/-! ## Steps and runs -/

/-- What is kept of the admission tables keeps their invariants. -/
theorem AdmissionKept.gate {sha : Sha256} {directory : List ProviderAdmissionKernel}
    {before after : RuntimeWorld} (kept : AdmissionKept sha directory before after)
    (serves : ∀ kernel ∈ directory, kernel ∈ before.admission.kernels)
    (gate : AdmissionSystem.GateInvariant sha before.admission) :
    AdmissionSystem.GateInvariant sha after.admission := by
  have known : ∀ kernel ∈ directory,
      PolicyKnown sha before.admission.db.admission kernel.policy :=
    fun kernel listed => gate.sound.known kernel (serves kernel listed)
  refine ⟨⟨?_, ?_⟩, ?_, ?_, ?_⟩
  · intro kernel member
    rw [kept.kernels] at member
    exact kept.kept (fun db => PolicyKnown sha db.admission kernel.policy)
      (fun _ _ _ _ _ _ held effect => PolicyKnown.of_effect held effect) known
      (gate.sound.known kernel member)
  · intro call member
    rw [kept.pending] at member
    rw [kept.kernels]
    exact gate.sound.pending call member
  · exact kept.kept (fun db => CapacityInvariant db.admission)
      (fun _ _ _ _ _ entitled held effect => capacity_effect held entitled effect) known
      gate.capacity
  · exact kept.kept (fun db => PolicyNamed db.admission)
      (fun _ _ _ _ _ entitled held effect => policyNamed_of_effect effect entitled held) known
      gate.named
  · exact kept.kept TokenInvariant
      (fun _ _ _ _ _ _ held effect => tokenInvariant_of_effect effect held) known gate.tokens

/-- What is kept of the admission tables keeps the receipts linked. -/
theorem AdmissionKept.chain {sha : Sha256} {directory : List ProviderAdmissionKernel}
    {before after : RuntimeWorld} (kept : AdmissionKept sha directory before after)
    (known : ∀ kernel ∈ directory, PolicyKnown sha before.admission.db.admission kernel.policy)
    (chain : ∀ provider, ProviderChain sha before.admission.db.admission provider)
    (provider : String) : ProviderChain sha after.admission.db.admission provider :=
  kept.kept (fun db => ProviderChain sha db.admission provider)
    (fun _ _ _ _ _ entitled held effect => chain_of_effect effect entitled held) known
    (chain provider)

/-- Every step keeps a world lawful. -/
theorem lawful_step (lawful : Lawful kernel.sha world) (action : RuntimeAction) :
    Lawful kernel.sha (step kernel hashes world action) := by
  cases action with
  | invoke call =>
    simp only [step]
    split
    · rename_i serves
      have kept := admissionKept_invoke kernel hashes call world
      exact ⟨kept.gate serves lawful.gate,
        kept.chain (fun kernel listed => lawful.gate.sound.known kernel (serves kernel listed))
          lawful.chain, logged_invoke kernel hashes call lawful.logged⟩
    · exact lawful
  | admission action =>
    refine ⟨AdmissionSystem.gateInvariant_step lawful.gate action, fun provider => ?_,
      lawful.logged.of_kept (fun _ has => has) rfl rfl⟩
    exact AdmissionSystem.step_invariant (fun db => ProviderChain kernel.sha db.admission provider)
      (fun _ _ _ _ _ entitled held effect => chain_of_effect effect entitled held)
      lawful.gate.sound (lawful.chain provider) action

/-- Every reachable world is lawful. -/
theorem reachable_lawful (kernel : AccountingKernel) (hashes : Hashes) (actions : List RuntimeAction) :
    Lawful kernel.sha ((machine kernel hashes).run .initial actions) := by
  have keep : ∀ world action, Lawful kernel.sha world →
      Lawful kernel.sha ((machine kernel hashes).step world action) :=
    fun _ action lawful => lawful_step lawful action
  exact (machine kernel hashes).run_invariant_all keep lawful_initial actions

/-! ## Permits -/

/-- In every reachable world a current kernel ends whatever its permits name: it cancels a grant, and
finishes a dispatch, which then is completed or left to a reconciliation. -/
theorem permits_end (kernel : AccountingKernel) (hashes : Hashes)
    (injective : Function.Injective kernel.sha.sha256) (actions : List RuntimeAction) :
    let world := (machine kernel hashes).run .initial actions
    let db := world.admission.db
    ∀ admission ∈ world.admission.kernels, Current kernel.sha admission db.admission →
      ∀ permit, ∀ row ∈ db.admission.requests.rows, row.requestId = permit.requestId →
        permitMatchesRow permit row = true →
          (row.state = .granted → ∀ now, ∃ after,
            admission.cancelBeforeTransport kernel.sha db permit now = .ok (after, .ok ()) ∧
              Ungranted after.admission permit.requestId) ∧
          (row.state = .dispatched → ∀ report now, ∃ after,
            admission.finish kernel.sha db permit report now = .ok (after, .ok ()) ∧
              ∃ ended ∈ after.admission.requests.rows, ended.requestId = permit.requestId ∧
                ended.state =
                  if report.ambiguous then .reconciliationRequired else .completed) := by
  intro world db admission listed current permit row stored named matching
  have keep : ∀ world action, Lawful kernel.sha world →
      Lawful kernel.sha ((machine kernel hashes).step world action) :=
    fun _ action lawful => lawful_step lawful action
  have lawful := (machine kernel hashes).run_invariant_all keep lawful_initial actions
  have endable : Endable kernel.sha db.admission := ⟨lawful.gate.capacity, lawful.chain⟩
  have known := lawful.gate.sound.known admission listed
  constructor
  · intro granted now
    exact cancelBeforeTransport_succeeds injective endable known current stored named matching
      granted now
  · intro dispatched report now
    exact finish_succeeds injective endable known current stored named matching dispatched report now

/-- One request is admitted and dispatched. -/
def dispatchedActions : List RuntimeAction :=
  (AdmissionSystem.prepared packedDigest ++ AdmissionSystem.started packedDigest 1 1).map .admission

/-- A kernel that can be evaluated. -/
def sampleAccounting : AccountingKernel := ⟨packedDigest, fun _ => 0⟩

/-- The world the actions lead to. -/
def dispatchedWorld : RuntimeWorld :=
  (machine sampleAccounting ⟨packedDigest, fun _ => 0⟩).run .initial dispatchedActions

/-- Its transport is finished with a known outcome, and the request is completed. -/
theorem permits_end_dispatched : ∃ after, AdmissionSystem.sampleKernel.finish sampleAccounting.sha
    dispatchedWorld.admission.db (AdmissionSystem.samplePermit packedDigest 1 1)
      ⟨some true, some true, some 200, true, 9⟩ 4 = .ok (after, .ok ()) ∧
    ∃ ended ∈ after.admission.requests.rows, ended.requestId = 1 ∧ ended.state = .completed := by
  have listed : AdmissionSystem.sampleKernel ∈ dispatchedWorld.admission.kernels := by
    decide +kernel
  have current : Current sampleAccounting.sha AdmissionSystem.sampleKernel
      dispatchedWorld.admission.db.admission := by
    unfold Current
    decide +kernel
  have named : ∃ row ∈ dispatchedWorld.admission.db.admission.requests.rows, row.requestId = 1 ∧
      permitMatchesRow (AdmissionSystem.samplePermit packedDigest 1 1) row = true ∧
        row.state = .dispatched := by decide +kernel
  obtain ⟨row, stored, same, matching, dispatched⟩ := named
  have ends := permits_end sampleAccounting ⟨packedDigest, fun _ => 0⟩ packedDigest_injective
    dispatchedActions AdmissionSystem.sampleKernel listed
  rw [← dispatchedWorld] at ends
  exact (ends current (AdmissionSystem.samplePermit packedDigest 1 1) row stored same matching).2
    dispatched ⟨some true, some true, some 200, true, 9⟩ 4

end RuntimeWorld
end Macr
