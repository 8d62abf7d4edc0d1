import Macr.Accounting.Outbox
import Macr.Lib.Sum
import Mathlib.Algebra.Order.Ring.Rat

/-!
# The accounting status

A status adds up the stored amounts of the invocations it selects, whatever their billing states.
An observation without an amount is unknown and an unobserved dispatch has none, so the amounts
are those of known bills until a terminal record declares an observed amount unknown: it writes
the billing state and leaves the amount. That is the only way, so the runs whose status is
faithful throughout are known exactly.
-/

namespace Macr

open Lib

/-- The columns the status groups invocations by. -/
structure StatusKey where
  /-- The provider. -/
  providerId : String
  /-- What is known of the bill. -/
  billingState : BillingState
  /-- What became of the candidate. -/
  candidateStatus : Option CandidateStatus
  /-- The code of a failure. -/
  failureCode : Option String
  /-- Where it failed. -/
  failureStage : Option String
  /-- Whether the network was used. -/
  networkAttempted : Option Bool
  /-- Whether an answer came back. -/
  responseReceived : Option Bool
  /-- The HTTP status. -/
  providerHttpStatus : Option Nat
  /-- The provider's error code. -/
  providerErrorCode : Option String
  /-- How far the transport got. -/
  transportStage : Option String
deriving DecidableEq

/-- A group of invocations. -/
structure StatusGroup where
  /-- What they share. -/
  key : StatusKey
  /-- How many they are. -/
  runCount : Nat
  /-- The sum of their amounts. -/
  knownCostUsd : ℚ
deriving DecidableEq

/-- An item of `by_provider_billing_state`. -/
structure ProviderGroup where
  /-- The provider. -/
  providerId : String
  /-- What is known of the bill. -/
  billingState : BillingState
  /-- How many invocations. -/
  runCount : Nat
  /-- The sum of their amounts. -/
  knownCostUsd : ℚ
deriving DecidableEq

/-- `AccountingStatusSnapshot`. -/
structure AccountingStatusSnapshot where
  /-- The sum of the stored amounts. -/
  knownCostUsd : ℚ
  /-- The unknown bills. -/
  unknownAfterDispatchCount : Nat
  /-- The open invocations. -/
  unsettledCount : Nat
  /-- The invocations without a tier binding. -/
  legacyPreTierCount : Nat
  /-- The entries of the invocation outbox. -/
  pendingInvocationOutboxCount : Nat
  /-- The entries of the plan cost outbox. -/
  pendingPlanCostOutboxCount : Nat
  /-- The entries of the bill outbox. -/
  pendingBillObservationOutboxCount : Nat
  /-- The selected invocations, by provider and billing state. -/
  byProviderBillingState : List ProviderGroup
  /-- The failed ones, by what failed. -/
  byFailure : List StatusGroup
  /-- The provider asked for. -/
  providerFilter : Option String
  /-- The time asked for. -/
  since : Option Timestamp

/-- `COALESCE(currency_cost_usd, 0)`. -/
def InvocationRow.cost (row : InvocationRow) : ℚ := row.currencyCostUsd.getD 0

/-- The `WHERE` clause of the status. -/
def InvocationRow.selected (providerId : Option String) (since : Option Timestamp)
    (row : InvocationRow) : Bool :=
  providerId.all (fun provider => row.providerId = provider) &&
    since.all (fun start => start ≤ row.dispatchedAt)

/-- The columns of `GROUP BY`. -/
def InvocationRow.statusKey (row : InvocationRow) : StatusKey :=
  ⟨row.providerId, row.billingState, row.candidateStatus, row.failureCode, row.failureStage,
    row.networkAttempted, row.responseReceived, row.providerHttpStatus, row.providerErrorCode,
    row.transportStage⟩

/-- `ORDER BY`, missing values first. -/
def StatusKey.order (left right : StatusKey) : Ordering :=
  (compare left.providerId right.providerId).then <|
  (compare left.billingState.value right.billingState.value).then <|
  (compare left.failureCode right.failureCode).then <|
  (compare left.failureStage right.failureStage).then <|
  (compare left.providerHttpStatus right.providerHttpStatus).then <|
  compare left.providerErrorCode right.providerErrorCode

/-- `grouped_rows`; groups the order does not tell apart keep the order of their first rows. -/
def groupedRows (rows : List InvocationRow) : List StatusGroup :=
  let keys := (rows.map InvocationRow.statusKey).eraseDups
  (keys.mergeSort (fun left right => (left.order right).isLE)).map fun key =>
    let members := rows.filter (fun row => row.statusKey = key)
    ⟨key, members.length, (members.map InvocationRow.cost).sum⟩

/-- One turn of the loop over `grouped_rows`. -/
def addProviderGroup (groups : List ProviderGroup) (group : StatusGroup) : List ProviderGroup :=
  let same (other : ProviderGroup) : Bool :=
    other.providerId = group.key.providerId ∧ other.billingState = group.key.billingState
  if groups.any same then
    groups.map fun other =>
      if same other then
        { other with
          runCount := other.runCount + group.runCount
          knownCostUsd := other.knownCostUsd + group.knownCostUsd }
      else other
  else
    groups ++
      [⟨group.key.providerId, group.key.billingState, group.runCount, group.knownCostUsd⟩]

namespace AccountingDb

/-- The invocations a status selects. -/
def selectedRows (db : AccountingDb) (providerId : Option String) (since : Option Timestamp) :
    List InvocationRow :=
  db.invocations.rows.filter (InvocationRow.selected providerId since)

/-- `status_snapshot`, on the present schema. -/
def statusSnapshot (db : AccountingDb) (providerId : Option String) (since : Option Timestamp) :
    Except MacrError AccountingStatusSnapshot := do
  let provider ← checkOptional (safeId "provider_id" · 128) providerId
  let rows := db.selectedRows provider since
  let groups := groupedRows rows
  pure
    { knownCostUsd := (rows.map InvocationRow.cost).sum
      unknownAfterDispatchCount :=
        rows.countP (fun row => row.billingState = .unknownAfterDispatch)
      unsettledCount := rows.countP (fun row => row.terminalAt = none)
      legacyPreTierCount := rows.countP (fun row => row.providerTierBindingDigest = none)
      pendingInvocationOutboxCount := db.outbox.rows.countP (fun entry =>
        entry.state = "pending" ∧ ∃ row ∈ rows, row.runId = entry.runId)
      pendingPlanCostOutboxCount := db.planCostOutbox.rows.countP (fun entry =>
        entry.state = "pending")
      pendingBillObservationOutboxCount := db.billOutbox.rows.countP (fun entry =>
        entry.state = "pending")
      byProviderBillingState := groups.foldl addProviderGroup []
      byFailure := groups.filter (fun group =>
        group.key.candidateStatus = some .candidateFailure)
      providerFilter := provider
      since := since }

/-- The reported cost is the sum over the selected invocations whose bill is known, and an unknown
bill is counted among the unknown ones. -/
def CostsFaithful (db : AccountingDb) : Prop :=
  ∀ providerId since snapshot, db.statusSnapshot providerId since = .ok snapshot →
    snapshot.knownCostUsd = (((db.selectedRows providerId since).filter
      (fun row => row.billingState.known)).map InvocationRow.cost).sum ∧
    snapshot.unknownAfterDispatchCount = ((db.selectedRows providerId since).filter
      (fun row => row.billingState = .unknownAfterDispatch)).length

/-- Amounts are not negative, and an unobserved dispatch has none. -/
def CostsRecorded (db : AccountingDb) : Prop :=
  ∀ row ∈ db.invocations.rows,
    0 ≤ row.cost ∧ (row.billingState = .dispatched → row.cost = 0)

/-- No unknown bill holds an amount. -/
def UnknownCostless (db : AccountingDb) : Prop :=
  ∀ row ∈ db.invocations.rows, row.billingState = .unknownAfterDispatch → row.cost = 0

variable {kernel : AccountingKernel} {db : AccountingDb}

/-- A check of an optional text returns the text. -/
theorem checkOptional_safeId {name : String} {text : Option String} {maximum : Nat}
    {checked : Option String}
    (passed : checkOptional (safeId name · maximum) text = .ok checked) : checked = text := by
  cases text with
  | none =>
    simp only [checkOptional, Except.ok.injEq] at passed
    exact passed.symm
  | some value =>
    simp only [checkOptional, except_map_eq_ok, safeId, nonEmpty, bind_eq_ok, raiseIf_eq_ok,
      exists_const, pure_eq_ok] at passed
    obtain ⟨_, ⟨_, ⟨_, rfl⟩, _, rfl⟩, rfl⟩ := passed
    rfl

/-- With the amounts recorded, a status is faithful exactly when no unknown bill holds one. -/
theorem costsFaithful_iff (recorded : CostsRecorded db) :
    CostsFaithful db ↔ UnknownCostless db := by
  constructor
  · intro faithful row held unknown
    have report : db.statusSnapshot none none = .ok _ := rfl
    have total := (faithful none none _ report).1
    have whole : db.selectedRows none none = db.invocations.rows := by
      unfold selectedRows
      rw [List.filter_eq_self]
      intro other _
      rfl
    have nonneg : ∀ row ∈ db.invocations.rows, 0 ≤ row.cost :=
      fun row member => (recorded row member).1
    change ((db.selectedRows none none).map InvocationRow.cost).sum = _ at total
    rw [whole] at total
    have outside := (sum_filter_eq_sum_iff _ InvocationRow.cost nonneg).mp total.symm
    apply outside row held
    rw [unknown]
    rfl
  · intro costless providerId since snapshot reported
    simp only [statusSnapshot, bind_eq_ok, pure_eq_ok] at reported
    obtain ⟨provider, checked, rfl⟩ := reported
    have same := checkOptional_safeId checked
    subst same
    have inside : ∀ row ∈ db.selectedRows provider since, row ∈ db.invocations.rows :=
      fun row member => (List.mem_filter.mp member).1
    constructor
    · symm
      apply (sum_filter_eq_sum_iff _ InvocationRow.cost _).mpr
      · intro row member unknown
        cases state : row.billingState with
        | dispatched => exact (recorded row (inside row member)).2 state
        | unknownAfterDispatch => exact costless row (inside row member) state
        | providerReported => simp [state, BillingState.known] at unknown
        | estimated => simp [state, BillingState.known] at unknown
        | zeroLocal => simp [state, BillingState.known] at unknown
      · exact fun row member => (recorded row (inside row member)).1
    · exact List.countP_eq_length_filter

/-! ## Which calls keep unknown bills without an amount -/

end AccountingDb

/-- A terminal record that declares unknown the bill of an open invocation for which an amount is
stored. -/
def AccountingAction.DeclaresCostUnknown (db : AccountingDb) (action : AccountingAction) : Prop :=
  action.interrupted = false ∧ match action.call with
    | .recordTerminal runId candidateStatus billingState failureCode failureStage outboxId =>
      match AccountingDb.terminalValues candidateStatus billingState failureCode failureStage,
          db.invocation? runId with
      | .ok values, some row =>
        values.billingState = .unknownAfterDispatch ∧ row.terminalAt = none ∧ row.cost ≠ 0 ∧
          outboxId ∉ db.outbox.rows.map (·.outboxId)
      | _, _ => False
    | _ => False

namespace AccountingDb

variable {kernel : AccountingKernel} {db : AccountingDb}

/-- The billing state of an observation is not that of a dispatch, and it is unknown without an
amount. -/
theorem billingState_of_observation (observation : RawProviderObservation) :
    observation.billingState ≠ .dispatched ∧
      (observation.billingState = .unknownAfterDispatch → observation.currencyCostUsd = none) := by
  unfold RawProviderObservation.billingState
  by_cases missing : observation.currencyCostUsd = none
  · rw [if_pos missing]
    exact ⟨by decide, fun _ => missing⟩
  · rw [if_neg missing]
    constructor
    · split
      · decide
      · split <;> decide
    · intro unknown
      split at unknown
      · cases unknown
      · split at unknown <;> cases unknown

/-- The amount of an observation is not negative. -/
theorem cost_of_observation (observation : RawProviderObservation) :
    0 ≤ observation.currencyCostUsd.getD 0 := by
  cases stored : observation.currencyCostUsd with
  | none => exact le_refl (0 : ℚ)
  | some amount => exact observation.cost_nonneg amount stored

/-- A checked terminal billing state is not that of a dispatch. -/
theorem billingState_of_terminalValues {candidateStatus billingState : String}
    {failureCode failureStage : Option String} {values : TerminalValues}
    (checked : terminalValues candidateStatus billingState failureCode failureStage = .ok values) :
    values.billingState ≠ .dispatched := by
  simp only [terminalValues, bind_eq_ok, require_eq_ok, raiseIf_eq_ok, exists_const,
    pure_eq_ok] at checked
  obtain ⟨status, _, billing, parsed, _, code, _, stage, _, rfl⟩ := checked
  show billing ≠ .dispatched
  intro same
  subst same
  unfold BillingState.ofTerminalText at parsed
  split at parsed <;> cases parsed

/-- A property of single invocations survives an effect when a new dispatch has it, an observation
gives it, and a terminal record and a warning keep it. -/
theorem rows_of_effect {P : InvocationRow → Prop} {after : AccountingDb} {now : Timestamp}
    {call : AccountingCall} (held : ∀ row ∈ db.invocations.rows, P row)
    (effect : InvocationEffect kernel db now call after)
    (dispatch : ∀ row : InvocationRow, row.toObservedColumns = .dispatched → P row)
    (observe : ∀ (row : InvocationRow) (observation : RawProviderObservation),
      P { row with toObservedColumns := observation.observedValues })
    (terminate : ∀ (row : InvocationRow) (values : TerminalValues),
      row ∈ db.invocations.rows → row.terminalAt = none → P row →
      (∃ candidateStatus billingState failureCode failureStage outboxId,
        call = .recordTerminal row.runId candidateStatus billingState failureCode failureStage
          outboxId ∧ outboxId ∉ db.outbox.rows.map (·.outboxId) ∧
        terminalValues candidateStatus billingState failureCode failureStage = .ok values) →
      P (values.apply now row))
    (warn : ∀ row, P row → P { row with softWarning := true }) :
    ∀ row ∈ after.invocations.rows, P row := by
  intro next member
  cases effect with
  | kept invocations outbox =>
    rw [invocations] at member
    exact held next member
  | dispatched row fresh inserted outbox opened unobserved =>
    rw [inserted] at member
    rcases List.mem_append.mp member with old | new
    · exact held next old
    · rw [List.mem_singleton.mp new]
      exact dispatch row unobserved
  | observed row observation stored opened written =>
    subst written
    rcases mem_updateInvocation stored member with rfl | ⟨old, _⟩
    · exact observe row observation
    · exact held next old
  | terminated row values outboxId stored opened observed alone fresh invocations outbox called =>
    obtain ⟨candidateStatus, billingState, failureCode, failureStage, called, checked⟩ := called
    rw [invocations] at member
    have inside := mem_of_invocation stored
    rcases mem_updateInvocation stored member with rfl | ⟨old, _⟩
    · exact terminate row values inside opened (held row inside)
        ⟨candidateStatus, billingState, failureCode, failureStage, outboxId, called, fresh, checked⟩
    · exact held next old
  | warned row stored unmarked called written =>
    subst written
    rcases mem_updateInvocation stored member with rfl | ⟨old, _⟩
    · exact warn row (held row (mem_of_invocation stored))
    · exact held next old

/-- Every effect keeps the amounts recorded. -/
theorem costsRecorded_of_effect {after : AccountingDb} {now : Timestamp} {call : AccountingCall}
    (recorded : CostsRecorded db) (effect : InvocationEffect kernel db now call after) :
    CostsRecorded after := by
  apply rows_of_effect recorded effect
  · intro row unobserved
    have missing : row.currencyCostUsd = none := by rw [unobserved]; rfl
    simp [InvocationRow.cost, missing]
  · intro row observation
    constructor
    · exact cost_of_observation observation
    · intro state
      exact absurd state (billingState_of_observation observation).1
  · rintro row values _ _ ⟨nonneg, _⟩ ⟨_, _, _, _, _, _, _, checked⟩
    constructor
    · exact nonneg
    · intro state
      exact absurd state (billingState_of_terminalValues checked)
  · exact fun row costs => costs

/-- An open invocation takes a terminal record that declares its bill unknown. -/
theorem recordTerminal_of_unknown (kernel : AccountingKernel) (now : Timestamp) {runId : Uuid}
    {candidateStatus billingState : String} {failureCode failureStage : Option String}
    {outboxId : Uuid} {values : TerminalValues} {row : InvocationRow}
    (checked : terminalValues candidateStatus billingState failureCode failureStage = .ok values)
    (stored : db.invocation? runId = some row) (opened : row.terminalAt = none)
    (unknown : values.billingState = .unknownAfterDispatch)
    (alone : ¬∃ other ∈ db.outbox.rows, other.runId = runId)
    (fresh : outboxId ∉ db.outbox.rows.map (·.outboxId)) :
    ∃ outbox, db.recordTerminal kernel now runId candidateStatus billingState failureCode
        failureStage outboxId =
      commit { db.updateInvocation runId (values.apply now) (values.runId_apply now) with
        outbox := outbox } () := by
  have found : (db.updateInvocation runId (values.apply now)
      (values.runId_apply now)).invocation? runId = some (values.apply now row) := by
    rw [invocation_updateInvocation, if_pos rfl, stored]
    rfl
  have same : row.runId = runId := runId_of_invocation stored
  have key : (outboxEntry kernel.sha outboxId now (values.apply now row)).runId = runId := same
  have inserted : db.outbox.insert? (outboxEntry kernel.sha outboxId now (values.apply now row)) =
      some (db.outbox.insert (outboxEntry kernel.sha outboxId now (values.apply now row)) fresh) :=
    (db.outbox.insert?_eq_some _ _).mpr ⟨fresh, rfl⟩
  have written : (db.updateInvocation runId (values.apply now)
      (values.runId_apply now)).insertOutbox
        (outboxEntry kernel.sha outboxId now (values.apply now row)) =
      .ok { db.updateInvocation runId (values.apply now) (values.runId_apply now) with
        outbox := db.outbox.insert
          (outboxEntry kernel.sha outboxId now (values.apply now row)) fresh } := by
    unfold insertOutbox
    rw [raiseIf_bind_of_not (by rw [key]; exact alone)]
    show require (db.outbox.insert? _) _ >>= _ = _
    rw [inserted]
    rfl
  have known : ¬(values.billingState ≠ .unknownAfterDispatch ∧ row.currencyCostUsd = none) :=
    fun both => both.1 unknown
  refine ⟨db.outbox.insert (outboxEntry kernel.sha outboxId now (values.apply now row)) fresh, ?_⟩
  unfold recordTerminal
  rw [checked, ok_bind, stored, require_some_bind, if_neg (not_not.mpr opened),
    raiseIf_bind_of_not known]
  simp only [found, require_some_bind, written]
  rfl

/-- A terminal record that declares an amount unknown leaves the amount on the unknown bill. -/
theorem not_costless_of_declaresCostUnknown {action : AccountingAction} (laid : OutboxLaid db)
    (declares : action.DeclaresCostUnknown db) :
    ¬UnknownCostless ((machine kernel).step db action) := by
  obtain ⟨now, interrupted, call⟩ := action
  obtain ⟨running, declares⟩ := declares
  have running : interrupted = false := running
  subst running
  cases call with
  | recordTerminal runId candidateStatus billingState failureCode failureStage outboxId =>
    simp only at declares
    split at declares
    · rename_i values row checked stored
      obtain ⟨unknown, opened, amount, fresh⟩ := declares
      have alone : ¬∃ other ∈ db.outbox.rows, other.runId = runId := by
        rintro ⟨entry, member, same⟩
        obtain ⟨other, held, terminal⟩ := laid.terminal entry member
        rw [same, stored, Option.some.injEq] at held
        rw [← held] at terminal
        exact terminal opened
      have key := runId_of_invocation stored
      have found : (db.updateInvocation runId (values.apply now)
          (values.runId_apply now)).invocation? runId = some (values.apply now row) := by
        rw [invocation_updateInvocation, if_pos rfl, stored]
        rfl
      have stepped : ((machine kernel).step db ⟨now, false, .recordTerminal runId candidateStatus
          billingState failureCode failureStage outboxId⟩).invocations =
          (db.updateInvocation runId (values.apply now) (values.runId_apply now)).invocations := by
        obtain ⟨outbox, done⟩ :=
          recordTerminal_of_unknown kernel now checked stored opened unknown alone fresh
        show (step kernel db ⟨now, false, .recordTerminal runId candidateStatus billingState
          failureCode failureStage outboxId⟩).invocations = _
        unfold step perform
        rw [if_neg Bool.false_ne_true]
        simp only [done]
        rfl
      intro costless
      have zero : (values.apply now row).cost = 0 := by
        apply costless (values.apply now row) _ unknown
        rw [stepped]
        exact mem_of_invocation found
      exact amount zero
    · exact absurd declares (by simp)
  | _ => exact absurd declares (by simp)

/-- Every other effect keeps unknown bills without an amount. -/
theorem costless_of_effect {after : AccountingDb} {now : Timestamp} {call : AccountingCall}
    (costless : UnknownCostless db)
    (allowed : ¬AccountingAction.DeclaresCostUnknown db ⟨now, false, call⟩)
    (effect : InvocationEffect kernel db now call after) : UnknownCostless after := by
  apply rows_of_effect costless effect
  · intro row unobserved _
    have missing : row.currencyCostUsd = none := by rw [unobserved]; rfl
    simp [InvocationRow.cost, missing]
  · intro row observation unknown
    have missing := (billingState_of_observation observation).2 unknown
    simp [InvocationRow.cost, RawProviderObservation.observedValues, missing]
  · rintro row values inside opened _
      ⟨candidateStatus, billingState, failureCode, failureStage, outboxId, rfl, fresh, checked⟩
      unknown
    by_contra amount
    apply allowed
    refine ⟨rfl, ?_⟩
    simp only [checked, invocation_of_mem inside]
    exact ⟨unknown, opened, amount, fresh⟩
  · exact fun row same => same

/-- A step keeps unknown bills without an amount exactly when it declares no amount unknown. -/
theorem costless_step_iff (laid : OutboxLaid db) (costless : UnknownCostless db)
    (action : AccountingAction) :
    UnknownCostless ((machine kernel).step db action) ↔ ¬action.DeclaresCostUnknown db := by
  constructor
  · intro after declares
    exact not_costless_of_declaresCostUnknown laid declares after
  · intro allowed
    obtain ⟨now, interrupted, call⟩ := action
    cases interrupted with
    | true => exact costless
    | false => exact costless_of_effect costless allowed (effect_of_step kernel db ⟨now, false, call⟩)

/-- The status is faithful in every state of a run, whatever it selects, exactly when no terminal
record of the run declares a stored amount unknown. -/
theorem unknown_billing_not_known (kernel : AccountingKernel) (actions : List AccountingAction) :
    (∀ first rest, actions = first ++ rest →
        CostsFaithful ((machine kernel).run initial first)) ↔
      (machine kernel).Obeys (fun db action => ¬action.DeclaresCostUnknown db) initial actions := by
  have keep : ∀ db action, OutboxLaid db ∧ CostsRecorded db →
      OutboxLaid ((machine kernel).step db action) ∧
        CostsRecorded ((machine kernel).step db action) := by
    intro db action held
    have effect := effect_of_step kernel db action
    exact ⟨outboxLaid_of_effect held.1 effect, costsRecorded_of_effect held.2 effect⟩
  have exact : ∀ db action, OutboxLaid db ∧ CostsRecorded db → UnknownCostless db →
      (UnknownCostless ((machine kernel).step db action) ↔ ¬action.DeclaresCostUnknown db) :=
    fun _ action held costless => costless_step_iff held.1 costless action
  have begun : OutboxLaid initial ∧ CostsRecorded initial :=
    ⟨outboxLaid_initial, fun _ member => absurd member List.not_mem_nil⟩
  have none_yet : UnknownCostless initial := fun _ member => absurd member List.not_mem_nil
  rw [← (machine kernel).holds_throughout_iff_obeys keep exact begun none_yet]
  have same : ∀ first, CostsFaithful ((machine kernel).run initial first) ↔
      UnknownCostless ((machine kernel).run initial first) := fun first =>
    costsFaithful_iff ((machine kernel).run_invariant_all keep begun first).2
  simp only [same]

/-- An observation of an amount of one. -/
def sampleObservation : RawProviderObservation where
  providerId := "glm_flash_worker"
  model := none
  finishReason := none
  usage := ⟨none, none, none, none⟩
  currencyCostUsd := some 1
  costKind := some "actual"
  pricingBasisVersion := none
  durationMs := none
  networkAttempted := none
  responseReceived := none
  providerHttpStatus := none
  providerErrorCode := none
  transportStage := none
  cost_nonneg := by decide +kernel
  httpStatus_bounded := by simp
  errorCode_safe := by simp
  transportStage_safe := by simp
  response_attempted := by simp
  telemetry_response := by simp

/-- An observed bill is declared unknown. -/
def forgottenCost : List AccountingAction :=
  [⟨1, false, sampleDispatch⟩, ⟨2, false, .recordObservation 1 sampleObservation⟩,
    ⟨3, false, .recordTerminal 1 "candidate_failure" "unknown_after_dispatch" none none 7⟩]

/-- The only bill of the run is unknown, and its amount is reported as known cost. -/
theorem known_cost_of_forgottenCost :
    ¬CostsFaithful ((machine sampleAccounting).run initial forgottenCost) := by
  intro faithful
  have reported : (((machine sampleAccounting).run initial forgottenCost).statusSnapshot none
      none).map (·.knownCostUsd) = .ok 1 := by decide +kernel
  have known : ((((machine sampleAccounting).run initial forgottenCost).selectedRows none
      none).filter (fun row => row.billingState.known)).map InvocationRow.cost = [] := by
    decide +kernel
  rw [except_map_eq_ok] at reported
  obtain ⟨snapshot, reported, one⟩ := reported
  have total := (faithful none none snapshot reported).1
  rw [known, one] at total
  exact absurd total (by decide +kernel)

end AccountingDb
end Macr
