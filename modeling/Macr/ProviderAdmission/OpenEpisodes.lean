import Macr.ProviderAdmission.ControlChain
import Macr.ProviderAdmission.Circuit
import Macr.ProviderAdmission.Turns
import Mathlib.Data.List.DropRight

/-!
# Open episodes

A policy change may leave unresolved capacity behind only where the circuit was opened, and has been
kept open, by unknown outcomes alone. The kernel decides this by replaying the receipts of the
provider. Receipts of an open circuit tell what they are, so that the replay is exact.
-/

namespace Macr

open Lib

namespace ProviderAdmissionKernel

variable {sha : Sha256} {kernel : ProviderAdmissionKernel} {provider : String} {kind : EffectKind}
  {tables next : AdmissionTables} {now : Timestamp}

/-! ## What receipts record -/

/-- A signal of provider pressure. -/
def Signal.IsPressure (signal : Signal) : Prop :=
  ∃ status, signal = .http status ∧ (status = 429 ∨ (500 ≤ status ∧ status ≤ 599))

/-- A kind and a signal record more than an unknown outcome: provider pressure, a local integrity
stop, the expiry of a permit, or a half-open probe that failed or was cancelled. -/
def RecordsMore (kind : TransitionKind) (signal : Signal) : Prop :=
  Signal.IsPressure signal ∨
    (kind = .localIntegrityStop ∨ signal = .localIntegrityStop) ∨
    kind = .permitExpired ∨ kind = .halfOpenFailed ∨ kind = .halfOpenCancelled

/-- A kind tells the truth about its signal. -/
def Truthful (kind : TransitionKind) (signal : Signal) : Prop :=
  (kind = .circuitOpened → Signal.IsPressure signal) ∧
    (kind = .localIntegrityStop → signal = .localIntegrityStop)

/-- The receipts of an open circuit tell the truth. -/
def Told (tables : AdmissionTables) : Prop :=
  ∀ row ∈ tables.transitions.rows, row.body.circuitState = .open →
    row.transitionKind = row.body.transitionKind ∧
      Truthful row.body.transitionKind row.body.lastSignal

/-- A status of pressure is signalled. -/
theorem isPressure_of_providerPressure {report : TransportReport}
    (pressure : report.providerPressure = true) (otherwise : Signal) :
    Signal.IsPressure (report.httpSignal otherwise) := by
  obtain ⟨networkAttempted, responseReceived, status, terminalPersisted, evidence⟩ := report
  cases status with
  | none => simp [TransportReport.providerPressure] at pressure
  | some status =>
    refine ⟨status, rfl, ?_⟩
    simpa [TransportReport.providerPressure] using pressure

/-- No other status is signalled as pressure. -/
theorem not_isPressure_of_not_providerPressure {report : TransportReport}
    (calm : report.providerPressure = false) {otherwise : Signal}
    (plain : ¬Signal.IsPressure otherwise) : ¬Signal.IsPressure (report.httpSignal otherwise) := by
  obtain ⟨networkAttempted, responseReceived, status, terminalPersisted, evidence⟩ := report
  cases status with
  | none => exact plain
  | some status =>
    rintro ⟨same, signalled, pressure⟩
    have equal : status = same := Signal.http.inj signalled
    subst equal
    simp only [TransportReport.providerPressure, Option.any_some, Option.some.injEq] at calm
    rcases pressure with rfl | ⟨least, most⟩
    · simp at calm
    · simp [least, most] at calm

/-- The receipt of a finish tells the truth. -/
theorem truthful_change (report : TransportReport) (policy : ProviderAdmissionPolicy)
    (state : ControlRow) (requestId : Uuid) :
    Truthful (report.change policy state requestId).transitionKind
      (report.change policy state requestId).lastSignal := by
  unfold TransportReport.change
  by_cases ambiguous : report.ambiguous = true
  · simp only [ambiguous, if_true]
    constructor
    · intro opened
      -- Only pressure opens the circuit under this kind.
      unfold TransportReport.ambiguousKind at opened
      split at opened
      · cases opened
      · split at opened
        · cases opened
        · split at opened
          · cases opened
          · split at opened
            · rename_i pressure
              rw [TransportReport.ambiguousSignal, if_pos pressure.1]
              exact isPressure_of_providerPressure pressure.1 _
            · split at opened <;> cases opened
    · intro stopped
      unfold TransportReport.ambiguousKind at stopped
      split at stopped
      · cases stopped
      · split at stopped
        · cases stopped
        · split at stopped
          · assumption
          · split at stopped
            · cases stopped
            · split at stopped <;> cases stopped
  · simp only [ambiguous, Bool.false_eq_true, if_false]
    constructor
    · intro opened
      unfold TransportReport.knownKind at opened
      split at opened
      · split at opened <;> cases opened
      · cases opened
      · split at opened
        · rename_i _ closed isOpen
          have pressure : report.providerPressure = true := by
            by_contra calm
            simp [TransportReport.knownCircuit, closed, calm] at isOpen
          exact isPressure_of_providerPressure pressure _
        · cases opened
    · intro stopped
      unfold TransportReport.knownKind at stopped
      split at stopped
      · split at stopped <;> cases stopped
      · cases stopped
      · split at stopped <;> cases stopped

/-- The receipt of a finish on an open circuit records more than an unknown outcome exactly where
its report shows provider pressure, or a stop of local integrity. -/
theorem recordsMore_change_iff (report : TransportReport) (policy : ProviderAdmissionPolicy)
    {state : ControlRow} (isOpen : state.circuitState = .open) (requestId : Uuid) :
    RecordsMore (report.change policy state requestId).transitionKind
        (report.change policy state requestId).lastSignal ↔
      report.providerPressure = true ∨ (report.ambiguous = true ∧
        (report.terminalPersisted = false ∨ report.networkAttempted = none)) := by
  have notPressure : ∀ signal, (∀ status, signal ≠ .http status) → ¬Signal.IsPressure signal := by
    rintro signal plain ⟨status, rfl, _⟩
    exact plain status rfl
  have noIsolation : report.isolatedUncertainty policy .open = false := by
    simp [TransportReport.isolatedUncertainty]
  unfold TransportReport.change
  rw [isOpen]
  by_cases ambiguous : report.ambiguous = true
  · simp only [ambiguous, if_true, true_and]
    by_cases pressure : report.providerPressure = true
    · have signalled : Signal.IsPressure (report.ambiguousSignal policy .open) := by
        rw [TransportReport.ambiguousSignal, if_pos pressure]
        exact isPressure_of_providerPressure pressure _
      simp [RecordsMore, signalled, pressure]
    · by_cases stop : report.terminalPersisted = false ∨ report.networkAttempted = none
      · have signalled : report.ambiguousSignal policy .open = .localIntegrityStop := by
          rw [TransportReport.ambiguousSignal, if_neg pressure, if_pos (by simpa using stop)]
        simp [RecordsMore, signalled, stop]
      · have signalled : report.ambiguousSignal policy .open = .unknownAfterDispatch := by
          rw [TransportReport.ambiguousSignal, if_neg pressure, if_neg (by simpa using stop),
            noIsolation]
          rfl
        have named : report.ambiguousKind policy .open = .unknownAfterDispatch := by
          simp [TransportReport.ambiguousKind, signalled, pressure]
        have plain := notPressure .unknownAfterDispatch (by simp)
        simp [RecordsMore, signalled, named, plain, pressure, stop]
  · simp only [ambiguous, Bool.false_eq_true, if_false, false_and, or_false]
    have named : report.knownKind .open = .terminalObservedWhileOpen := rfl
    rw [named]
    have notStop : report.knownSignal ≠ .localIntegrityStop := by
      unfold TransportReport.knownSignal TransportReport.httpSignal
      cases report.providerHttpStatus with
      | none =>
        simp only [Option.map_none, Option.getD_none]
        split <;> simp
      | some status => simp
    by_cases pressure : report.providerPressure = true
    · have signalled : Signal.IsPressure report.knownSignal :=
        isPressure_of_providerPressure pressure _
      simp [RecordsMore, signalled, pressure]
    · have signalled : ¬Signal.IsPressure report.knownSignal := by
        apply not_isPressure_of_not_providerPressure (by simpa using pressure)
        split
        · exact notPressure _ (by simp)
        · exact notPressure _ (by simp)
      simp [RecordsMore, signalled, pressure, notStop]

/-- Where a receipt tells the truth, the replay stops at it exactly where it records more. -/
theorem endsUnknownOnly_iff {row : TransitionRow} (named : row.transitionKind =
      row.body.transitionKind) (truthful : Truthful row.body.transitionKind row.body.lastSignal) :
    endsUnknownOnly row = true ↔ RecordsMore row.body.transitionKind row.body.lastSignal := by
  unfold endsUnknownOnly RecordsMore
  rw [Bool.or_eq_true, named]
  refine (or_congr Iff.rfl (show _ ↔ Signal.IsPressure row.body.lastSignal ∨
    row.body.lastSignal = .localIntegrityStop from ?_)).trans ?_
  · cases row.body.lastSignal <;> simp [Signal.IsPressure]
  simp only [Bool.or_eq_true, decide_eq_true_eq]
  constructor
  · rintro ((((opened | failed) | cancelled) | expired) | pressure | stopped)
    · exact .inl (truthful.1 opened)
    · exact .inr (.inr (.inr (.inl failed)))
    · exact .inr (.inr (.inr (.inr cancelled)))
    · exact .inr (.inr (.inl expired))
    · exact .inl pressure
    · exact .inr (.inl (.inr stopped))
  · rintro (pressure | (stopped | stopped) | expired | failed | cancelled)
    · exact .inr (.inl pressure)
    · exact .inr (.inr (truthful.2 stopped))
    · exact .inr (.inr stopped)
    · exact .inl (.inr expired)
    · exact .inl (.inl (.inl (.inr failed)))
    · exact .inl (.inl (.inr cancelled))

/-! ## Operations -/

/-- Tables without a new receipt stay told. -/
theorem told_of_same (told : Told tables) (transitions : next.transitions = tables.transitions) :
    Told next := by
  intro row stored
  exact told row (transitions ▸ stored)

/-- A rewrite of requests keeps the tables told. -/
theorem told_of_update (told : Told tables) (condition : RequestRow → Bool)
    (assign : RequestProgress → RequestProgress) : Told (tables.updateRequests condition assign) :=
  told_of_same told rfl

/-- A receipt that tells the truth, or is not of an open circuit, keeps the tables told. -/
theorem told_of_append (told : Told tables) {body : ControlBody}
    (appended : next.transitions.rows = tables.transitions.rows ++ [receiptRow sha body])
    (truthful : body.circuitState = .open → Truthful body.transitionKind body.lastSignal) :
    Told next := by
  intro row stored isOpen
  rw [appended, List.mem_append, List.mem_singleton] at stored
  rcases stored with held | rfl
  · exact told row held isOpen
  · exact ⟨rfl, truthful isOpen⟩

/-- A control change that tells the truth keeps the tables told. -/
theorem told_of_change (told : Told tables) {state : ControlRow} {change : ControlChange}
    {policy : ProviderAdmissionPolicy} {result : AdmissionTables × ControlRow}
    (appended : kernel.appendControlTransition sha tables (some state) change now policy =
      .ok result) (truthful : Truthful change.transitionKind change.lastSignal) :
    Told result.1 := by
  obtain ⟨_, moved, _⟩ := appendControlTransition_eq_ok appended
  exact told_of_append told moved.transitions fun _ => truthful

/-- A kind that promises nothing of its signal tells the truth. -/
theorem truthful_of_kind {kind : TransitionKind} {signal : Signal} (notOpened : kind ≠ .circuitOpened)
    (notStopped : kind ≠ .localIntegrityStop) : Truthful kind signal :=
  ⟨fun opened => absurd opened notOpened, fun stopped => absurd stopped notStopped⟩

/-- The cancellation of a grant keeps the tables told. -/
theorem told_cancelGrantedRow (told : Told tables) {row : RequestRow} {state : ControlRow}
    {reason : Signal} (done : kernel.cancelGrantedRow sha tables row state now reason = .ok next) :
    Told next := by
  simp only [cancelGrantedRow, bind_eq_ok, raiseIf_eq_ok, exists_const] at done
  obtain ⟨_, units, decremented, _, rest⟩ := done
  obtain ⟨⟨_, _, transitions, _⟩, _⟩ := AdmissionTables.decrementProject_eq_ok decremented
  have mid : Told (units.updateRequests (rowIn row.requestId .granted) (·.cancelled now)) :=
    told_of_same told transitions
  split at rest
  · rw [bind_eq_ok] at rest
    obtain ⟨⟨final, after⟩, appended, same⟩ := rest
    rw [pure_eq_ok] at same
    have final := told_of_change mid appended (truthful_of_kind (by simp [cancelChange])
      (by simp [cancelChange]))
    exact same ▸ final
  · rw [pure_eq_ok] at rest
    exact rest ▸ mid

/-- Expiry keeps the tables told. -/
theorem told_expire (told : Told tables) (done : kernel.expire sha tables now = .ok next) :
    Told next := by
  simp only [expire, bind_eq_ok] at done
  obtain ⟨state, _, ⟨looped, expired⟩, loop, rest⟩ := done
  have ended : Told looped := by
    refine foldlM_invariant (fun found _ => Told found.1) ?_ told loop
    intro found row rows after held turned
    unfold expireRow at turned
    split at turned
    · rw [pure_eq_ok] at turned
      exact turned ▸ held
    · split at turned
      · rw [pure_eq_ok] at turned
        exact turned ▸ told_of_same held rfl
      · rw [bind_eq_ok] at turned
        obtain ⟨cancelled, done, same⟩ := turned
        rw [pure_eq_ok] at same
        exact same ▸ told_cancelGrantedRow held done
      · rw [pure_eq_ok] at turned
        exact turned ▸ told_of_same held rfl
  cases expired with
  | none =>
    simp only [pure_eq_ok] at rest
    exact rest ▸ ended
  | some requestId =>
    simp only [bind_eq_ok, pure_eq_ok] at rest
    obtain ⟨⟨final, after⟩, appended, same⟩ := rest
    have final := told_of_change ended appended (truthful_of_kind
      (by simp only [expiryChange]; split <;> simp) (by simp only [expiryChange]; split <;> simp))
    exact same ▸ final

/-- An effect that is no signal and no terminal appends no receipt of an open circuit. -/
theorem told_of_effect {before after : RuntimeDb} (told : Told before.admission)
    (quiet : kind ≠ .signal ∧ kind ≠ .terminal)
    (effect : Effect sha kernel provider kind before after) : Told after.admission := by
  cases effect with
  | move => exact told_of_same told rfl
  | release _ _ _ _ decremented =>
    exact told_of_same told (AdmissionTables.decrementProject_eq_ok decremented).1.2.2.1
  | enqueue _ _ _ _ _ inserted =>
    simp only [insertRequest, bind_eq_ok, require_eq_ok, pure_eq_ok] at inserted
    obtain ⟨_, _, _, _, rfl⟩ := inserted
    exact told_of_same told rfl
  | grant => exact told_of_same told rfl
  | receipt named =>
    rcases named with same | same
    · exact absurd same quiet.1
    · exact absurd same quiet.2
  | target _ _ closed _ _ _ appended =>
    exact told_of_append told appended.transitions fun isOpen => by simp [nextBody, closed] at isOpen
  | halfOpen _ _ halfOpen _ _ _ appended =>
    exact told_of_append told appended.transitions fun isOpen => by
      simp [nextBody, halfOpen] at isOpen
  | supersede _ _ _ closed _ _ _ _ _ policy appended =>
    exact told_of_append (told_of_same told policy.transitions) appended.transitions fun isOpen => by
      simp [nextBody, closed] at isOpen
  | genesis _ closed _ _ policy transitions =>
    exact told_of_append (told_of_same told policy.transitions) transitions fun isOpen => by
      simp [nextBody, closed] at isOpen
  | policy policy => exact told_of_same told policy.transitions
  | authority => exact told
  | token => exact told

section Calls

variable {db : RuntimeDb}

/-- An admission keeps the tables told. -/
theorem told_tryAdmit (told : Told db.admission) {request : ProviderAdmissionRequest}
    {ttlSeconds : Nat} {result : Committed RuntimeDb ProviderAdmissionPermit}
    (done : kernel.tryAdmit sha db request ttlSeconds now = .ok result) :
    Told result.1.admission := by
  have served : ∀ {ready : RuntimeDb} {state : ControlRow}, Told ready.admission →
      kernel.grantIfServed ready state request now = .ok result → Told result.1.admission := by
    intro ready state held ended
    rcases grantIfServed_serves ended with same | ⟨same, _⟩
    · exact same ▸ held
    · rw [same]
      exact told_of_same held rfl
  simp only [tryAdmit, bind_eq_ok] at done
  obtain ⟨tables, expired, state, _, rest⟩ := done
  have mid : Told tables := told_expire told expired
  split at rest
  · exact commitRaise_eq_ok.mp rest ▸ mid
  · split at rest
    · exact commitRaise_eq_ok.mp rest ▸ mid
    · split at rest
      · exact commitRaise_eq_ok.mp rest ▸ mid
      · split at rest
        · simp only [bind_eq_ok, raiseIf_eq_ok, exists_const] at rest
          obtain ⟨_, rest⟩ := rest
          split at rest
          · simp only [Except.ok.injEq] at rest
            exact rest ▸ mid
          · simp only [bind_eq_ok, raiseIf_eq_ok, exists_const] at rest
            exact served mid rest.2
        · simp only [bind_eq_ok, insertRequest, require_eq_ok, pure_eq_ok] at rest
          obtain ⟨_, ⟨_, _, _, _, rfl⟩, rest⟩ := rest
          exact served (told_of_same mid rfl) rest

/-- A transport start that is refused keeps the tables told. -/
theorem told_refuseTransport (told : Told db.admission) {row : RequestRow} {state : ControlRow}
    {reason : Signal} {error : MacrError} {result : Committed RuntimeDb Unit}
    (done : kernel.refuseTransport sha db row state now reason error = .ok result) :
    Told result.1.admission := by
  simp only [refuseTransport, bind_eq_ok, commitRaise_eq_ok] at done
  obtain ⟨tables, cancelled, rfl⟩ := done
  exact told_cancelGrantedRow told cancelled

/-- A transport start keeps the tables told. -/
theorem told_beginTransport (told : Told db.admission) {permit : ProviderAdmissionPermit}
    {request : ProviderAdmissionRequest} {authorityNow : Timestamp}
    {result : Committed RuntimeDb Unit}
    (done : kernel.beginTransport sha db permit request now authorityNow = .ok result) :
    Told result.1.admission := by
  simp only [beginTransport, bind_eq_ok] at done
  obtain ⟨tables, expired, state, _, row, _, rest⟩ := done
  have mid : Told { db with admission := tables }.admission := told_expire told expired
  split at rest
  · exact commitRaise_eq_ok.mp rest ▸ mid
  · split at rest
    · exact commitRaise_eq_ok.mp rest ▸ mid
    · split at rest
      · exact commitRaise_eq_ok.mp rest ▸ mid
      · split at rest
        · exact told_refuseTransport mid rest
        · split at rest
          · exact told_refuseTransport mid rest
          · split at rest
            · exact told_refuseTransport mid rest
            · split at rest
              · exact told_refuseTransport mid rest
              · exact commit_eq_ok.mp rest ▸ told_of_same mid rfl

/-- A finish keeps the tables told. -/
theorem told_finish (told : Told db.admission) {permit : ProviderAdmissionPermit}
    {report : TransportReport} {result : Committed RuntimeDb Unit}
    (done : kernel.finish sha db permit report now = .ok result) : Told result.1.admission := by
  simp only [finish, bind_eq_ok] at done
  obtain ⟨state, _, row, _, _, _, units, released, ⟨final, next⟩, appended, rest⟩ := done
  have mid : units.transitions = db.admission.transitions := by
    unfold releaseIfKnown at released
    split at released
    · rw [Except.ok.injEq] at released
      rw [released]
    · exact (AdmissionTables.decrementProject_eq_ok released).1.2.2.1
  have final := told_of_change (told_of_update (told_of_same told mid) _ _) appended
    (truthful_change _ _ _ _)
  exact commit_eq_ok.mp rest ▸ final

/-- A resolution keeps the tables told. -/
theorem told_resolveReconciliation (told : Told db.admission) {requestId : Uuid} {evidence : Digest}
    {result : Committed RuntimeDb Unit}
    (done : kernel.resolveReconciliation sha db requestId evidence now = .ok result) :
    Told result.1.admission := by
  simp only [resolveReconciliation, bind_eq_ok] at done
  obtain ⟨state, _, row, _, units, released, ⟨final, next⟩, appended, rest⟩ := done
  have mid := (AdmissionTables.decrementProject_eq_ok released).1.2.2.1
  have final := told_of_change (told_of_update (told_of_same told mid) _ _) appended
    (truthful_of_kind (by simp [resolutionChange]) (by simp [resolutionChange]))
  exact commit_eq_ok.mp rest ▸ final

/-- Every call keeps the tables told. -/
theorem told_transact (told : Told db.admission) {clocks : ClockReadings} {call : KernelCall}
    {result : Committed RuntimeDb CallResult} (prepared : Prepared sha kernel call)
    (done : kernel.transact sha db clocks call = .ok result) : Told result.1.admission := by
  -- Calls whose effects append no receipt of an open circuit.
  have quiet : EffectKind.signal ∉ call.kinds → EffectKind.terminal ∉ call.kinds →
      Told result.1.admission := by
    intro noSignal noTerminal
    obtain ⟨provider, _, mid, own, chosen⟩ := transact_effects prepared done
    have keep : ∀ provider, ∀ kind ∈ call.kinds, ∀ before after, Told before.admission →
        Effect sha kernel provider kind before after → Told after.admission := by
      intro provider kind listed before after held effect
      exact told_of_effect held ⟨fun same => noSignal (same ▸ listed),
        fun same => noTerminal (same ▸ listed)⟩ effect
    exact chosen.invariant (fun db => Told db.admission) (keep provider)
      (own.invariant (fun db => Told db.admission) (keep _) told)
  cases call with
  | tryAdmit request ttlSeconds =>
    obtain ⟨inner, committed, rfl⟩ := except_map_eq_ok.mp done
    exact told_tryAdmit told committed
  | beginTransport permit request =>
    obtain ⟨inner, committed, rfl⟩ := except_map_eq_ok.mp done
    exact told_beginTransport told committed
  | cancelBeforeTransport permit =>
    obtain ⟨inner, committed, rfl⟩ := except_map_eq_ok.mp done
    simp only [cancelBeforeTransport, bind_eq_ok] at committed
    obtain ⟨state, _, row, _, _, _, tables, cancelled, rest⟩ := committed
    have final := told_cancelGrantedRow told cancelled
    exact commit_eq_ok.mp rest ▸ final
  | cancelWaiting requestId runId => exact quiet (by simp [KernelCall.kinds]) (by simp [KernelCall.kinds])
  | finish permit report =>
    obtain ⟨inner, committed, rfl⟩ := except_map_eq_ok.mp done
    exact told_finish told committed
  | resolveReconciliation requestId reference evidence =>
    obtain ⟨inner, committed, rfl⟩ := except_map_eq_ok.mp done
    exact told_resolveReconciliation told committed
  | activateTarget target reference =>
    exact quiet (by simp [KernelCall.kinds]) (by simp [KernelCall.kinds])
  | activateHalfOpen binding reference probe =>
    exact quiet (by simp [KernelCall.kinds]) (by simp [KernelCall.kinds])
  | supersedePolicy binding successor reference =>
    exact quiet (by simp [KernelCall.kinds]) (by simp [KernelCall.kinds])

end Calls

/-! ## The replay -/

/-- The current uninterrupted open episode of some receipts: those behind the last one that does not
leave the circuit open. -/
def openEpisode (rows : List TransitionRow) : List TransitionRow :=
  rows.rtakeWhile (fun row => row.body.circuitState = .open)

/-- Unknown outcomes alone opened a circuit and kept it open. -/
def UnknownOnly (rows : List TransitionRow) : Prop :=
  ∃ opening inside, openEpisode rows = opening :: inside ∧
    opening.transitionKind = .unknownAfterDispatch ∧ ∀ row ∈ inside, endsUnknownOnly row = false

/-- An episode is running exactly where the last receipt leaves the circuit open. -/
theorem openEpisode_ne_nil_iff (rows : List TransitionRow) :
    openEpisode rows ≠ [] ↔ rows.getLast?.map (·.body.circuitState) = some .open := by
  induction rows using List.reverseRecOn with
  | nil => simp [openEpisode]
  | append_singleton earlier last _ =>
    by_cases isOpen : last.body.circuitState = .open <;> simp [openEpisode, isOpen]

/-- The circuit of a provider is the one its last receipt leaves. -/
theorem circuit_of_chain (chain : ProviderChain sha tables provider) :
    tables.circuit provider = (tables.receipts provider).getLast?.map (·.body.circuitState) := by
  unfold AdmissionTables.circuit
  cases found : tables.states.find? provider with
  | none =>
    have absent := (tables.states.find?_eq_none provider).mp found
    rw [chain.started absent]
    rfl
  | some state =>
    obtain ⟨stored, own⟩ := (tables.states.find?_eq_some provider state).mp found
    obtain ⟨last, atEnd, projects⟩ := chain.projected state stored own
    rw [atEnd, Option.map_some, Option.map_some, projects.circuitState]

/-- What the replay has found after some receipts. -/
theorem observe_receipts (rows : List TransitionRow) :
    let episode := rows.foldl OpenEpisode.observe {}
    episode.previous = rows.getLast?.map (·.body.circuitState) ∧
      (episode.active = true ↔ openEpisode rows ≠ []) ∧
      (episode.unknownOnly = true ↔ UnknownOnly rows) := by
  induction rows using List.reverseRecOn with
  | nil => simp [openEpisode, UnknownOnly]
  | append_singleton rows row ih =>
    obtain ⟨previous, active, unknownOnly⟩ := ih
    have running := openEpisode_ne_nil_iff rows
    rw [List.foldl_append, List.foldl_cons, List.foldl_nil, List.getLast?_concat]
    generalize rows.foldl OpenEpisode.observe {} = episode at previous active unknownOnly ⊢
    by_cases isOpen : row.body.circuitState = .open
    · have grown : openEpisode (rows ++ [row]) = openEpisode rows ++ [row] := by
        simp [openEpisode, isOpen]
      by_cases opens : episode.previous = some .open
      · -- The episode goes on.
        have nonempty : openEpisode rows ≠ [] := running.mpr (previous ▸ opens)
        obtain ⟨opening, inside, shape⟩ := List.exists_cons_of_ne_nil nonempty
        have isActive := active.mpr nonempty
        have whole : UnknownOnly (rows ++ [row]) ↔
            UnknownOnly rows ∧ endsUnknownOnly row = false := by
          simp only [UnknownOnly, grown, shape, List.cons_append, List.cons.injEq]
          constructor
          · rintro ⟨_, _, ⟨rfl, rfl⟩, kind, calm⟩
            exact ⟨⟨opening, inside, ⟨rfl, rfl⟩, kind, fun other member =>
              calm other (List.mem_append_left _ member)⟩, calm row (by simp)⟩
          · rintro ⟨⟨_, _, ⟨rfl, rfl⟩, kind, calm⟩, last⟩
            refine ⟨opening, _, ⟨rfl, rfl⟩, kind, fun other member => ?_⟩
            rcases List.mem_append.mp member with held | same
            · exact calm other held
            · exact List.mem_singleton.mp same ▸ last
        rw [whole, grown]
        cases ends : endsUnknownOnly row <;>
          simp [OpenEpisode.observe, isOpen, opens, isActive, ends, unknownOnly]
      · -- The receipt opens an episode.
        have empty : openEpisode rows = [] := by
          by_contra nonempty
          exact opens (previous.trans (running.mp nonempty))
        simp [OpenEpisode.observe, isOpen, opens, UnknownOnly, grown, empty]
    · have ended : openEpisode (rows ++ [row]) = [] := by
        simp [openEpisode, isOpen]
      simp [OpenEpisode.observe, isOpen, UnknownOnly, ended]

end ProviderAdmissionKernel

namespace AdmissionSystem

open ProviderAdmissionKernel

variable {sha : Sha256}

/-! ## Runs -/

/-- Every reachable database is told, and its receipts are chains. -/
theorem told_run (sha : Sha256) (actions : List AdmissionAction) (provider : String) :
    Told ((machine sha).run .initial actions).db.admission ∧
      ProviderChain sha ((machine sha).run .initial actions).db.admission provider := by
  have told : ∀ system action, (Sound sha system ∧ Told system.db.admission) →
      Sound sha (step sha system action) ∧ Told (step sha system action).db.admission := by
    rintro system action ⟨sound, held⟩
    refine ⟨sound_step sound action, ?_⟩
    rcases step_cases sha system action with same | ⟨kernel, provider, kind, free, effect⟩ |
        ⟨call, clocks, result, commits⟩
    · rw [same]
      exact held
    · have quiet : kind ≠ .signal ∧ kind ≠ .terminal := by
        constructor
        · rintro rfl
          exact absurd free (by decide)
        · rintro rfl
          exact absurd free (by decide)
      exact told_of_effect held quiet effect
    · obtain ⟨member, done⟩ := commits.transacted
      rw [commits.db]
      exact told_transact held (sound.pending call member).2 done
  have start : Told AdmissionSystem.initial.db.admission := by
    intro row stored
    cases stored
  have chain := (reachable
    (fun db => CapacityInvariant db.admission ∧ ProviderChain sha db.admission provider)
    ⟨capacityInvariant_initial, chain_initial⟩
    (fun _ _ _ _ _ entitled held effect => ⟨capacity_effect held.1 entitled effect,
      chain_of_effect effect entitled held.2⟩) actions).2.2
  exact ⟨((machine sha).run_invariant_all told ⟨sound_initial, start⟩ actions).2, chain⟩

/-- The replay of a provider's receipts is exact. -/
structure ReplayExact (sha : Sha256) (tables : AdmissionTables) (provider : String) : Prop where
  /-- It finds an episode of unknown outcomes exactly where the circuit is open, an unknown outcome
  opened the current uninterrupted episode, and no receipt inside it records more. -/
  exact_iff : openEpisodeIsUnknownOnly tables provider = true ↔
    tables.circuit provider = some .open ∧ ∃ opening inside,
      openEpisode (tables.receipts provider) = opening :: inside ∧
      opening.body.transitionKind = .unknownAfterDispatch ∧
      ∀ row ∈ inside, ¬RecordsMore row.body.transitionKind row.body.lastSignal
  /-- What a finish on an open circuit records is what it is told. -/
  finishes : ∀ (report : TransportReport) (policy : ProviderAdmissionPolicy) (state : ControlRow)
    (requestId : Uuid), state.circuitState = .open →
    (RecordsMore (report.change policy state requestId).transitionKind
        (report.change policy state requestId).lastSignal ↔
      report.providerPressure = true ∨ (report.ambiguous = true ∧
        (report.terminalPersisted = false ∨ report.networkAttempted = none)))

/-- In every reachable state the replay of every provider's receipts is exact. -/
theorem open_episode_exact (sha : Sha256) (actions : List AdmissionAction) (provider : String) :
    ReplayExact sha ((machine sha).run .initial actions).db.admission provider := by
  obtain ⟨told, chain⟩ := told_run sha actions provider
  generalize ((machine sha).run .initial actions).db.admission = tables at told chain
  refine ⟨?_, fun report policy _ requestId isOpen =>
    recordsMore_change_iff report policy isOpen requestId⟩
  -- The receipts are stored in the order of their revisions.
  have ordered : (tables.receipts provider).insertionSort
      (fun left right => left.controlRevision ≤ right.controlRevision) =
        tables.receipts provider := by
    apply List.Pairwise.insertionSort_eq
    rw [List.pairwise_iff_getElem]
    intro i j earlier later before
    have first := (chain.linked i _ (List.getElem?_eq_getElem earlier)).1
    have second := (chain.linked j _ (List.getElem?_eq_getElem later)).1
    have revisions : ∀ row : TransitionRow, receiptSpec.revision row = row.controlRevision :=
      fun _ => rfl
    rw [revisions] at first second
    omega
  obtain ⟨_, active, unknownOnly⟩ := observe_receipts (tables.receipts provider)
  have replay : openEpisodeIsUnknownOnly tables provider = true ↔
      UnknownOnly (tables.receipts provider) := by
    show (_ && _) = true ↔ _
    rw [show tables.transitions.rows.filter (fun row => row.providerId = provider) =
      tables.receipts provider from rfl, ordered, Bool.and_eq_true, active, unknownOnly]
    constructor
    · exact fun both => both.2
    · rintro ⟨opening, inside, shape, rest⟩
      exact ⟨by simp [shape], opening, inside, shape, rest⟩
  have truthful : ∀ row ∈ openEpisode (tables.receipts provider),
      row.transitionKind = row.body.transitionKind ∧
        Truthful row.body.transitionKind row.body.lastSignal := by
    intro row member
    have isOpen := List.mem_rtakeWhile_imp member
    have stored := (List.rtakeWhile_suffix _ _).subset member
    exact told row (AdmissionTables.mem_receipts.mp stored).1 (of_decide_eq_true isOpen)
  rw [replay]
  constructor
  · rintro ⟨opening, inside, shape, kind, calm⟩
    rw [shape] at truthful
    refine ⟨?_, opening, inside, shape, ?_, ?_⟩
    · rw [circuit_of_chain chain]
      exact (openEpisode_ne_nil_iff _).mp (by simp [shape])
    · rw [← (truthful opening List.mem_cons_self).1]
      exact kind
    · intro row member records
      obtain ⟨named, truth⟩ := truthful row (List.mem_cons_of_mem _ member)
      have ends := (endsUnknownOnly_iff named truth).mpr records
      rw [calm row member] at ends
      cases ends
  · rintro ⟨_, opening, inside, shape, kind, calm⟩
    rw [shape] at truthful
    refine ⟨opening, inside, shape, ?_, ?_⟩
    · rw [(truthful opening List.mem_cons_self).1]
      exact kind
    · intro row member
      obtain ⟨named, truth⟩ := truthful row (List.mem_cons_of_mem _ member)
      by_contra ends
      exact calm row member ((endsUnknownOnly_iff named truth).mp (by simpa using ends))

end AdmissionSystem
end Macr
