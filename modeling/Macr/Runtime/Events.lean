import Macr.Runtime.Reachable

/-!
# What the log holds of a run

The events of a run are its dispatch and, once it has ended, its terminal behind it, whatever fails
in the invocations and however often one is repeated. The log only grows, a run that has ended
stays as it is, and accounting has its terminal under the same status.
-/

namespace Macr

open Lib ProviderAdmissionKernel Raising

/-- What tells events of a run apart. -/
def EventRow.label (event : EventRow) : Uuid × String := (event.eventId, event.eventType)

/-- The labels of the events that a row of `runs` speaks of. -/
def RunRow.labels (row : RunRow) : List (Uuid × String) :=
  (row.dispatchEventId, OperationalEvent.dispatchRequested.value) ::
    (row.terminalEventId.map (·, OperationalEvent.candidateCompleted.value)).toList

namespace AccountingDb

/-- Accounting has the terminal of a run under a status. -/
def Terminated (db : AccountingDb) (runId : Uuid) (status : CandidateStatus) : Prop :=
  ∃ row, db.invocation? runId = some row ∧ row.terminalAt ≠ none ∧
    row.candidateStatus = some status

/-- A terminal in accounting stays. -/
theorem Terminated.kept {kernel : AccountingKernel} {db after : AccountingDb}
    {now : Timestamp} {asked : AccountingCall} {runId : Uuid} {status : CandidateStatus}
    (ended : db.Terminated runId status)
    (effect : InvocationEffect kernel db now asked after) :
    after.Terminated runId status := by
  obtain ⟨row, stored, closed, of_status⟩ := ended
  have other : ∀ opened : InvocationRow, db.invocation? opened.runId = some opened →
      opened.terminalAt = none → runId ≠ opened.runId := by
    rintro opened held unended rfl
    rw [held, Option.some.injEq] at stored
    exact closed (stored ▸ unended)
  cases effect with
  | kept invocations _ =>
    refine ⟨row, ?_, closed, of_status⟩
    unfold AccountingDb.invocation? at stored ⊢
    rwa [invocations]
  | dispatched new fresh inserted _ _ _ =>
    refine ⟨row, ?_, closed, of_status⟩
    rw [invocation_insert inserted, if_neg (ne_of_fresh fresh stored), stored]
  | observed opened observation held unended written =>
    refine ⟨row, ?_, closed, of_status⟩
    rw [written, invocation_updateInvocation, if_neg (other opened held unended), stored]
  | terminated opened values outboxId held unended _ _ _ invocations _ _ =>
    refine ⟨row, ?_, closed, of_status⟩
    rw [invocation_terminated held invocations, if_neg (other opened held unended), stored]
  | warned marked held _ _ written =>
    rw [Terminated, written]
    simp only [invocation_updateInvocation, stored, Option.map_some]
    split
    · exact ⟨_, rfl, closed, of_status⟩
    · exact ⟨row, rfl, closed, of_status⟩

end AccountingDb

namespace EventLog

/-- The log holds of each run what its row speaks of. -/
structure Laid (log : EventLog) : Prop where
  /-- The events of a run are its dispatch and then its terminal, if it has ended. -/
  events : ∀ row ∈ log.runs.rows, (log.readEvents row.runId).map EventRow.label = row.labels
  /-- Every event is of a run. -/
  runs : ∀ event ∈ log.events.rows, ∃ row ∈ log.runs.rows, event.runId = some row.runId

/-- What every write keeps and adds. -/
structure Advances (log next : EventLog) : Prop where
  /-- The log stays laid out. -/
  laid : log.Laid → next.Laid
  /-- Events are appended. -/
  grows : log.events.rows <+: next.events.rows
  /-- A run that has ended stays as it is. -/
  ended : ∀ row ∈ log.runs.rows, row.terminalEventId ≠ none → row ∈ next.runs.rows

variable {log next : EventLog} {now : Timestamp} {runId dispatchEventId terminalEventId : Uuid}
  {payload : Payload} {state : String}

/-- Nothing done is an advance. -/
theorem Advances.refl (log : EventLog) : Advances log log :=
  ⟨fun laid => laid, List.prefix_refl _, fun _ held _ => held⟩

/-- Advances follow each other. -/
theorem Advances.trans {last : EventLog} (early : Advances log next) (late : Advances next last) :
    Advances log last :=
  ⟨fun laid => late.laid (early.laid laid), early.grows.trans late.grows,
    fun row held done => late.ended row (early.ended row held done) done⟩

/-- An appended event is read of its run alone. -/
theorem readEvents_concat {event : EventRow}
    (appended : next.events.rows = log.events.rows ++ [event]) (runId : Uuid) :
    next.readEvents runId =
      log.readEvents runId ++ if event.runId = some runId then [event] else [] := by
  simp [readEvents, appended, List.filter_cons]

/-- The start of a run is an advance. -/
theorem Started.advances (started : Started log next now runId dispatchEventId payload) :
    Advances log next := by
  refine ⟨fun laid => ⟨?_, ?_⟩, started.events ▸ List.prefix_append _ _, fun row held _ =>
    started.runs ▸ List.mem_append_left _ held⟩
  · intro row member
    rw [readEvents_concat started.events]
    rw [started.runs, List.mem_append, List.mem_singleton] at member
    rcases member with held | rfl
    · have other : runId ≠ row.runId := (started.absent row held).symm
      simpa [other] using laid.events row held
    · have silent : log.readEvents runId = [] := by
        refine List.filter_eq_nil_iff.mpr fun event held of_run => ?_
        obtain ⟨row, listed, named⟩ := laid.runs event held
        have same : some row.runId = some runId := named.symm.trans (of_decide_eq_true of_run)
        exact started.absent row listed (Option.some.inj same)
      simp [silent, RunRow.labels, EventRow.label]
  · intro event member
    rw [started.events, List.mem_append, List.mem_singleton] at member
    rw [started.runs]
    rcases member with held | rfl
    · obtain ⟨row, listed, named⟩ := laid.runs event held
      exact ⟨row, List.mem_append_left _ listed, named⟩
    · exact ⟨_, List.mem_append_right _ (List.mem_singleton.mpr rfl), rfl⟩

/-- The end of a run is an advance. -/
theorem Finished.advances
    (finished : Finished log next now runId terminalEventId state payload) : Advances log next := by
  have rows := log.runs.mem_update (fun row => row.runId = runId)
    (finishedRow terminalEventId (strip state) now) (fun _ => rfl)
  obtain ⟨own, stored, named, unfinished⟩ := finished.open_
  have is_own : ∀ row ∈ log.runs.rows, row.runId = runId → row = own := fun row held same =>
    log.runs.eq_of_key held stored (same.trans named.symm)
  refine ⟨fun laid => ⟨?_, ?_⟩, finished.events ▸ List.prefix_append _ _, ?_⟩
  · intro row member
    rw [readEvents_concat finished.events]
    obtain ⟨old, held, rfl⟩ := (rows row).mp (finished.runs ▸ member)
    have before := laid.events old held
    by_cases same : old.runId = runId
    · obtain rfl := is_own old held same
      simp only [RunRow.labels, unfinished, named] at before
      simp [named, finishedRow, RunRow.labels, EventRow.label, before]
    · simpa [same, Ne.symm same] using before
  · intro event member
    rw [finished.events, List.mem_append, List.mem_singleton] at member
    have kept : ∀ row ∈ log.runs.rows, ∃ other ∈ next.runs.rows, other.runId = row.runId := by
      intro row held
      refine ⟨_, finished.runs ▸ (rows _).mpr ⟨row, held, rfl⟩, ?_⟩
      split <;> rfl
    rcases member with held | rfl
    · obtain ⟨row, listed, of_run⟩ := laid.runs event held
      obtain ⟨other, there, same⟩ := kept row listed
      exact ⟨other, there, same ▸ of_run⟩
    · obtain ⟨other, there, same⟩ := kept own stored
      exact ⟨other, there, congrArg some (named.symm.trans same.symm)⟩
  · intro row held done
    refine finished.runs ▸ (rows row).mpr ⟨row, held, ?_⟩
    rw [if_neg]
    exact fun same => done (is_own row held (of_decide_eq_true same) ▸ unfinished)

end EventLog

namespace RuntimeWorld

variable {kernel : AccountingKernel} {hashes : Hashes} {world : RuntimeWorld}

/-- An invocation advances the log. -/
theorem advances_invoke (kernel : AccountingKernel) (hashes : Hashes) (call : Invocation)
    (world : RuntimeWorld) :
    EventLog.Advances world.log (invoke kernel hashes call world).2.log := by
  let W (before after : RuntimeWorld) : Prop := EventLog.Advances before.log after.log
  have kernels : UpheldKernels kernel.sha call W :=
    ⟨fun _ => .refl _, fun early late => early.trans late, fun _ _ _ => .refl _⟩
  have stores : UpheldStores kernel hashes call call.context.runId W :=
    { toUpheldKernels := kernels
      started := fun started => (EventLog.startRun_eq_ok started).1.advances
      dispatchRecorded := fun _ => .refl _
      filed := fun _ => .refl _
      captured := fun _ _ _ => .refl _
      observed := fun _ => .refl _
      terminalRecorded := fun _ => .refl _
      finished := fun finished => (EventLog.finishRun_eq_ok finished).1.advances }
  have leases : UpheldLeases call call.context.runId W := ⟨fun _ => .refl _, fun _ => .refl _⟩
  refine keeps_invokeBody kernels leases rfl (fun context fencingToken named => ?_)
    ⟨world, call.permit, none, false⟩
  unfold dispatched
  exact stores.bind (stores.dispatchPart named _) fun outcome => stores.afterProvider named outcome

/-- A step advances the log. -/
theorem advances_step (world : RuntimeWorld) (action : RuntimeAction) :
    EventLog.Advances world.log (step kernel hashes world action).log := by
  cases action with
  | admission action => exact .refl _
  | invoke call =>
    simp only [step]
    split
    · exact advances_invoke kernel hashes call world
    · exact .refl _

/-- Accounting has the terminal of every run that has ended, with its status. -/
def Accounted (world : RuntimeWorld) : Prop :=
  ∀ row ∈ world.log.runs.rows, row.terminalEventId ≠ none →
    ∃ status : CandidateStatus, row.state = status.value ∧
      world.accounting.Terminated row.runId status

/-- The start of a run keeps the terminals accounted for. -/
theorem Accounted.started {log : EventLog} {now : Timestamp} {runId dispatchEventId : Uuid}
    {payload : Payload} (accounted : world.Accounted)
    (started : EventLog.Started world.log log now runId dispatchEventId payload) :
    Accounted { world with log := log } := by
  intro row member ended
  rcases List.mem_append.mp (started.runs ▸ member) with held | new
  · exact accounted row held ended
  · rw [List.mem_singleton.mp new] at ended
    exact absurd rfl ended

/-- A terminal event keeps them accounted for when accounting has its terminal. -/
theorem Accounted.finished {log : EventLog} {now : Timestamp} {runId terminalEventId : Uuid}
    {payload : Payload} {status : CandidateStatus} (accounted : world.Accounted)
    (terminal : world.accounting.Terminated runId status)
    (finished : EventLog.Finished world.log log now runId terminalEventId status.value payload) :
    Accounted { world with log := log } := by
  intro row member ended
  rw [show (_ : EventLog).runs = _ from finished.runs] at member
  obtain ⟨old, held, rfl⟩ := (world.log.runs.mem_update _
    (EventLog.finishedRow terminalEventId (strip status.value) now) (fun _ => rfl) row).mp member
  by_cases same : old.runId = runId
  · refine ⟨status, ?_, ?_⟩
    · simp only [same, decide_true, if_true, EventLog.finishedRow]
      cases status <;> decide
    · simpa [same, EventLog.finishedRow] using terminal
  · simp only [same, decide_false, Bool.false_eq_true, if_false] at ended ⊢
    exact accounted old held ended

/-- A recorded terminal is there. -/
theorem terminated_of_recordTerminal {db : AccountingDb} {now : Timestamp} {runId outboxId : Uuid}
    {status : CandidateStatus} {billing : String} {code stage : Option String}
    {done : Committed AccountingDb Unit}
    (recorded : db.recordTerminal kernel now runId status.value billing code stage outboxId =
      .ok done) : done.1.Terminated runId status := by
  obtain ⟨row, values, checked, stored, wrote⟩ := AccountingDb.recordTerminal_eq_ok recorded
  have of_status : values.candidateStatus = status := by
    simp only [AccountingDb.terminalValues, bind_eq_ok, require_eq_ok, pure_eq_ok] at checked
    obtain ⟨named, read, _, _, _, _, _, _, _, _, rfl⟩ := checked
    cases status <;> exact (Option.some.inj read).symm
  rcases wrote with ⟨closed, repeats, same⟩ | ⟨_, _, _, _, same⟩
  · rw [same]
    exact ⟨row, stored, closed, of_status ▸ repeats.1⟩
  · refine ⟨values.apply now row, ?_, Option.some_ne_none now, congrArg some of_status⟩
    have found := @AccountingDb.invocation_updateInvocation db runId (values.apply now)
      (values.runId_apply now) runId
    rw [if_pos rfl, stored] at found
    rw [same]
    exact found

/-- Terminals stay accounted for. -/
def AccountedKept (before after : RuntimeWorld) : Prop := before.Accounted → after.Accounted

/-- The kernel calls keep the terminals accounted for. -/
theorem accounted_upheld (sha : Sha256) (call : Invocation) :
    UpheldKernels sha call AccountedKept where
  refl := fun _ kept => kept
  trans := fun early late kept => late (early kept)
  called := fun _ _ _ kept => kept

/-- So does whatever accounting does. -/
theorem Accounted.of_effect {after : AccountingDb} {now : Timestamp} {asked : AccountingCall}
    (accounted : world.Accounted)
    (effect : AccountingDb.InvocationEffect kernel world.accounting now asked after) :
    Accounted { world with accounting := after } :=
  fun row held ended => (accounted row held ended).imp fun _ both => both.imp_right (·.kept effect)

/-- The record of an outcome keeps the terminals accounted for. -/
theorem accounted_recordOutcome (kernel : AccountingKernel) (hashes : Hashes) (call : Invocation)
    (context : RunContext) (execution : ProviderExecution) :
    Keeps (worldly AccountedKept) (recordOutcome kernel hashes call context execution) := by
  have kernels := accounted_upheld kernel.sha call
  have : IsTrans InvokeState (worldly AccountedKept) := ⟨fun _ _ _ => kernels.trans⟩
  unfold recordOutcome captureCandidate
  refine kernels.bind ?_ fun capture => ?_
  · split
    · exact kernels.pure _
    · refine kernels.bind (keeps_onVault kernels.refl fun _ _ _ kept => kept) fun _ => ?_
      exact kernels.bind (keeps_onVault kernels.refl fun _ _ _ kept => kept) fun _ => kernels.pure _
  refine kernels.bind (keeps_onAccounting kernels.refl fun world done observed kept => ?_)
    fun _ => ?_
  · simp only [recordObservationBound, bind_eq_ok, raiseIf_eq_ok, exists_const, pure_eq_ok]
      at observed
    obtain ⟨result, recorded, _, rfl⟩ := observed
    have effect : AccountingDb.InvocationEffect kernel world.accounting 0
        (.markSoftWarning context.runId) result.1 :=
      AccountingDb.effect_of_recordObservation (except_map_eq_ok.mpr ⟨result, recorded, rfl⟩)
    exact kept.of_effect effect
  refine kernels.liftBind fun validated _ => kernels.bind (kernels.here fun _ => rfl) fun _ => ?_
  refine keeps_bind_of (keeps_onAccounting kernels.refl fun world done recorded kept =>
    kept.of_effect (AccountingDb.effect_of_recordTerminal
      (except_map_eq_ok.mpr ⟨done, recorded, rfl⟩))) fun _ _ reached recorded => ?_
  -- The terminal event is written once accounting has the terminal.
  obtain ⟨_, accounting, committed, rfl⟩ := onAccounting_eq_ok.mp recorded
  let W (before after : RuntimeWorld) : Prop :=
    before.accounting.Terminated context.runId validated.1.result.status →
      after.accounting.Terminated context.runId validated.1.result.status ∧
        AccountedKept before after
  have refl : ∀ world, W world world := fun _ there => ⟨there, fun kept => kept⟩
  have : IsTrans InvokeState (worldly W) := ⟨fun _ _ _ early late there =>
    ⟨(late (early there).1).1, fun kept => (late (early there).1).2 ((early there).2 kept)⟩⟩
  have given : ∀ {action : Invoking (ProviderExecution × Payload)} {state : InvokeState},
      state.world.accounting.Terminated context.runId validated.1.result.status →
        Keeps (worldly W) action → AccountedKept state.world (action state).2.world :=
    fun there kept => (kept _ there).2
  refine given (terminated_of_recordTerminal committed)
    (keeps_bind ?_ fun _ state => refl state.world)
  exact keeps_onLog refl fun world done finished there => ⟨there, fun kept =>
    kept.finished there (EventLog.finishRun_eq_ok finished).1⟩

/-- What is done under the lease keeps the terminals accounted for. -/
theorem accounted_dispatched (kernel : AccountingKernel) (hashes : Hashes) (call : Invocation)
    (context : RunContext) (fencingToken : Nat) :
    Keeps (worldly AccountedKept) (dispatched kernel hashes call context fencingToken) := by
  have kernels := accounted_upheld kernel.sha call
  unfold dispatched
  refine kernels.bind ?_ fun outcome => ?_
  · unfold dispatchPart recordDispatches
    refine kernels.bind (kernels.obtainAdmission context) fun request => kernels.bind ?_ fun _ =>
      kernels.bind (kernels.read _) fun permit => kernels.startTransport request permit
    refine kernels.bind (keeps_onLog kernels.refl fun world done started kept =>
      kept.started (EventLog.startRun_eq_ok started).1) fun _ => ?_
    refine kernels.bind (keeps_onAccounting kernels.refl fun world done recorded kept => ?_)
      fun _ => kernels.pure _
    have effect : AccountingDb.InvocationEffect kernel world.accounting _
        (.markSoftWarning context.runId) done.1 :=
      AccountingDb.effect_of_recordDispatch (except_map_eq_ok.mpr ⟨done, recorded, rfl⟩)
    exact kept.of_effect effect
  · unfold afterProvider
    refine kernels.bind (kernels.observeOutcome outcome) fun execution => kernels.bind
      (accounted_recordOutcome kernel hashes call context execution) fun recorded =>
        kernels.bind (kernels.read _) fun permit => ?_
    cases permit with
    | some permit => exact kernels.bind (kernels.settlePermit permit _ _) fun _ => kernels.pure _
    | none => exact kernels.pure _

/-- In every reachable world, accounting has the terminal of every run that has one in the log, with
the status of the run. -/
theorem terminals_accounted (kernel : AccountingKernel) (hashes : Hashes)
    (actions : List RuntimeAction) :
    ((machine kernel hashes).run .initial actions).Accounted := by
  have keep : ∀ world action, world.Accounted → Accounted (step kernel hashes world action) := by
    intro world action kept
    cases action with
    | admission action => exact kept
    | invoke call =>
      simp only [step]
      split
      · exact keeps_invokeBody (accounted_upheld kernel.sha call)
          ⟨fun _ kept => kept, fun _ kept => kept⟩ rfl
          (fun context token _ => accounted_dispatched kernel hashes call context token)
          ⟨world, call.permit, none, false⟩ kept
      · exact kept
  exact (machine kernel hashes).run_invariant_all keep
    (fun row member => absurd member List.not_mem_nil) actions

end RuntimeWorld
end Macr
