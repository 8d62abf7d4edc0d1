import Macr.Accounting.Contracts
import Macr.Lib.Machine
import Macr.Lib.Table

/-!
# The accounting store

One SQLite file of invocations, costs, accounts and outboxes. Every operation checks its
arguments, then works in one write transaction; a call that is interrupted before its commit
rolls back. Accounting identifiers come from two hashes, both parameters.
-/

namespace Macr

open Lib

/-- The hashes of the store. -/
structure AccountingKernel where
  /-- SHA-256. -/
  sha : Sha256
  /-- `uuid.uuid5` in `NAMESPACE_URL`. -/
  uuid5 : String → Uuid

/-- The tables of the accounting database. -/
structure AccountingDb where
  /-- `invocations`. -/
  invocations : Table (fun row : InvocationRow => row.runId)
  /-- `accounting_outbox`. -/
  outbox : Table (fun row : AccountingOutboxRow => row.outboxId)
  /-- `provider_accounts`. -/
  accounts : Table (fun row : ProviderAccountRow => row.accountId)
  /-- `accounting_entries`. -/
  entries : Table (fun row : AccountingEntryRow => row.entryId)
  /-- `billing_reconciliations`. -/
  reconciliations : Table (fun row : BillingReconciliationRow => row.reconciliationId)
  /-- `plan_costs`. -/
  planCosts : Table (fun row : PlanCostRecord => row.costId)
  /-- `plan_cost_outbox`. -/
  planCostOutbox : Table (fun row : CopyOutboxRow => row.outboxId)
  /-- `bill_observations`. -/
  bills : Table (fun row : BillObservationRow => row.observationId)
  /-- `bill_observation_outbox`. -/
  billOutbox : Table (fun row : CopyOutboxRow => row.outboxId)

namespace AccountingDb

/-- A new database. -/
def initial : AccountingDb :=
  ⟨.empty, .empty, .empty, .empty, .empty, .empty, .empty, .empty, .empty⟩

/-- The row of an invocation. -/
def invocation? (db : AccountingDb) (runId : Uuid) : Option InvocationRow :=
  db.invocations.find? runId

/-- `UPDATE invocations SET ... WHERE run_id = ?`. -/
def updateInvocation (db : AccountingDb) (runId : Uuid) (assign : InvocationRow → InvocationRow)
    (keeps : ∀ row, (assign row).runId = row.runId) : AccountingDb :=
  { db with invocations := db.invocations.update (fun row => row.runId = runId) assign keeps }

/-- `REFERENCES invocations(run_id)` of a column that may be null. -/
def References (db : AccountingDb) (runId : Option Uuid) : Prop :=
  ∀ run ∈ runId, db.invocation? run ≠ none

instance (db : AccountingDb) (runId : Option Uuid) : Decidable (db.References runId) :=
  inferInstanceAs (Decidable (∀ run ∈ runId, db.invocation? run ≠ none))

/-! ## Invocations -/

/-- The row a dispatch inserts. -/
def newInvocation (now : Timestamp) (runId : Uuid) (context : DispatchContext) (provider : String)
    (model : Option String) (estimate : Option ℚ) (softWarning : Bool) : InvocationRow :=
  { ObservedColumns.dispatched with
    runId := runId
    origin := context.origin
    interactionPlane := context.plane
    providerId := provider
    model := model
    dispatchedAt := now
    estimateUsd := estimate
    policySnapshotSha256 := context.policySnapshotSha256
    providerTierBindingDigest := context.providerTierBindingDigest
    terminalAt := none
    candidateStatus := none
    softWarning := softWarning
    failureCode := none
    failureStage := none }

/-- The columns a repeated dispatch is compared on. -/
def dispatchValues (row : InvocationRow) : DispatchColumns × Bool :=
  ({ row.toDispatchColumns with dispatchedAt := 0 }, row.softWarning)

/-- `record_dispatch`. -/
def recordDispatch (db : AccountingDb) (now : Timestamp) (runId : Uuid) (context : DispatchContext)
    (providerId : String) (model : Option String) (estimateUsd : Option ℚ) (softWarning : Bool) :
    Except MacrError (Committed AccountingDb Bool) := do
  raiseIf (context.runId ≠ runId) (.valueError "dispatch context must match run_id")
  let provider ← nonEmpty "provider_id" providerId 256
  let requestedModel ← checkOptional (nonEmpty "model" · 512) model
  let estimate ← optionalMoney "estimate_usd" estimateUsd
  let row := newInvocation now runId context provider requestedModel estimate softWarning
  match db.invocation? runId with
  | some existing =>
    raiseIf (dispatchValues existing ≠ dispatchValues row)
      (.accountingConflict "accounting dispatch conflicts with existing run")
    commit db false
  | none =>
    let invocations ← require (db.invocations.insert? row) .integrity
    commit { db with invocations := invocations } true

/-- `record_observation`. -/
def recordObservation (db : AccountingDb) (runId : Uuid) (observation : RawProviderObservation) :
    Except MacrError (Committed AccountingDb Unit) := do
  let row ← require (db.invocation? runId)
    (.accountingConflict "accounting observation has no dispatch")
  raiseIf (row.terminalAt ≠ none)
    (.accountingConflict "accounting observation cannot follow terminal state")
  raiseIf (row.providerId ≠ observation.providerId)
    (.accountingConflict "accounting observation provider does not match dispatch")
  let observed := observation.observedValues
  if row.billingState ≠ .dispatched then
    raiseIf (row.toObservedColumns ≠ observed)
      (.accountingConflict "accounting observation conflicts with existing evidence")
    commit db ()
  else
    commit (db.updateInvocation runId (fun row => { row with toObservedColumns := observed })
      (fun _ => rfl)) ()

/-- The arguments of a terminal record, checked. -/
structure TerminalValues where
  /-- What became of the candidate. -/
  candidateStatus : CandidateStatus
  /-- What is known of the bill. -/
  billingState : BillingState
  /-- The code of a failure. -/
  failureCode : Option String
  /-- Where it failed. -/
  failureStage : Option String
deriving DecidableEq

/-- The checks `record_terminal` makes of its arguments. -/
def terminalValues (candidateStatus billingState : String)
    (failureCode failureStage : Option String) : Except MacrError TerminalValues := do
  let status ← require (CandidateStatus.ofText candidateStatus)
    (.valueError "candidate_status is invalid")
  let billing ← require (BillingState.ofTerminalText billingState)
    (.valueError "billing_state is invalid for terminal state")
  raiseIf (failureCode.isNone ≠ failureStage.isNone)
    (.valueError "failure_code and failure_stage must be set together")
  let code ← checkOptional (safeId "failure_code" · 256) failureCode
  let stage ← checkOptional (safeId "failure_stage" · 256) failureStage
  pure ⟨status, billing, code, stage⟩

/-- A terminal record on the row it is for. -/
def TerminalValues.apply (values : TerminalValues) (now : Timestamp) (row : InvocationRow) :
    InvocationRow :=
  { row with
    terminalAt := some now
    candidateStatus := some values.candidateStatus
    billingState := values.billingState
    failureCode := values.failureCode
    failureStage := values.failureStage }

/-- A terminal record keeps the key of its row. -/
theorem TerminalValues.runId_apply (values : TerminalValues) (now : Timestamp)
    (row : InvocationRow) : (values.apply now row).runId = row.runId := rfl

/-- A repeated terminal record says what the row holds. -/
def TerminalValues.Repeats (values : TerminalValues) (row : InvocationRow) : Prop :=
  row.candidateStatus = some values.candidateStatus ∧ row.billingState = values.billingState ∧
    row.failureCode = values.failureCode ∧ row.failureStage = values.failureStage

instance (values : TerminalValues) (row : InvocationRow) : Decidable (values.Repeats row) :=
  inferInstanceAs (Decidable (_ ∧ _ ∧ _ ∧ _))

/-- The row `record_terminal` writes to the outbox. -/
def outboxEntry (sha : Sha256) (outboxId : Uuid) (now : Timestamp) (row : InvocationRow) :
    AccountingOutboxRow where
  outboxId := outboxId
  runId := row.runId
  schemaVersion := 3
  payload := row.outboxPayload
  payloadSha256 := sha.sha256 row.outboxPayload
  state := "pending"
  createdAt := now
  syncedAt := none

/-- `INSERT INTO accounting_outbox`. -/
def insertOutbox (db : AccountingDb) (entry : AccountingOutboxRow) :
    Except MacrError AccountingDb := do
  raiseIf (∃ other ∈ db.outbox.rows, other.runId = entry.runId) .integrity
  let outbox ← require (db.outbox.insert? entry) .integrity
  pure { db with outbox := outbox }

/-- `record_terminal`. -/
def recordTerminal (kernel : AccountingKernel) (db : AccountingDb) (now : Timestamp) (runId : Uuid)
    (candidateStatus billingState : String) (failureCode failureStage : Option String)
    (outboxId : Uuid) : Except MacrError (Committed AccountingDb Unit) := do
  let values ← terminalValues candidateStatus billingState failureCode failureStage
  let row ← require (db.invocation? runId)
    (.accountingConflict "accounting terminal has no dispatch")
  if row.terminalAt ≠ none then
    raiseIf (¬values.Repeats row)
      (.accountingConflict "accounting terminal conflicts with existing state")
    commit db ()
  else
    raiseIf (values.billingState ≠ .unknownAfterDispatch ∧ row.currencyCostUsd = none)
      (.accountingConflict "known billing state requires an observed cost")
    let db := db.updateInvocation runId (values.apply now) (values.runId_apply now)
    let updated ← require (db.invocation? runId) .assertionError
    let db ← onIntegrity
      (.accountingConflict "accounting terminal outbox conflicts with existing state")
      (db.insertOutbox (outboxEntry kernel.sha outboxId now updated))
    commit db ()

/-- `mark_soft_warning`. -/
def markSoftWarning (db : AccountingDb) (runId : Uuid) :
    Except MacrError (Committed AccountingDb Unit) := do
  let row ← require (db.invocation? runId)
    (.accountingConflict "accounting warning has no dispatch")
  if row.softWarning = false then
    commit (db.updateInvocation runId (fun row => { row with softWarning := true })
      (fun _ => rfl)) ()
  else
    commit db ()

/-- `pending_outbox`, in insertion order of equal times. -/
def pendingOutbox (db : AccountingDb) : List AccountingOutboxRow :=
  (db.outbox.rows.filter (fun row => row.state = "pending")).mergeSort (fun left right =>
    decide (left.createdAt < right.createdAt ∨
      left.createdAt = right.createdAt ∧ left.outboxId ≤ right.outboxId))

/-! ## Costs, bills and accounts -/

/-- The arguments of a plan cost. -/
structure PlanCostRequest where
  /-- The plan. -/
  planDigest : Digest
  /-- The invocation, if the cost has one. -/
  runId : Option Uuid
  /-- The class, by text. -/
  costClass : String
  /-- The amount. -/
  amountUsd : ℚ
  /-- Where the amount comes from. -/
  costKind : String
  /-- The price list. -/
  pricingBasisDigest : Digest
  /-- The role. -/
  roleDigest : Option Digest
  /-- The route. -/
  routeId : Option Digest
  /-- The caller's key. -/
  idempotencyKey : String

/-- The row an outbox copy is written as. -/
def copyEntry (sha : Sha256) (outboxId : Uuid) (subject : Digest) (payload : Json)
    (createdAt : Timestamp) : CopyOutboxRow :=
  ⟨outboxId, subject, payload, sha.sha256 payload, "pending", createdAt⟩

/-- An insertion into `plan_cost_outbox` or `bill_observation_outbox`. -/
def insertCopy (table : Table (fun row : CopyOutboxRow => row.outboxId)) (entry : CopyOutboxRow) :
    Except MacrError (Table (fun row : CopyOutboxRow => row.outboxId)) := do
  raiseIf (∃ other ∈ table.rows, other.subject = entry.subject) .integrity
  require (table.insert? entry) .integrity

/-- The record a plan cost is stored as. -/
def planCostRecord (kernel : AccountingKernel) (now : Timestamp) (request : PlanCostRequest) :
    Except MacrError PlanCostRecord := do
  let costClass ← require (CostClass.ofText request.costClass) (.valueError "cost_class is invalid")
  let amount ← money "amount_usd" request.amountUsd false
  let kind ← safeId "cost_kind" request.costKind 256
  let idempotency ← safeId "idempotency_key" request.idempotencyKey 512
  let record : PlanCostRecord :=
    { costId := 0
      planDigest := request.planDigest
      runId := request.runId
      roleDigest := request.roleDigest
      routeId := request.routeId
      costClass := costClass
      amountUsd := amount
      costKind := kind
      pricingBasisDigest := request.pricingBasisDigest
      idempotencyKey := idempotency
      observedAt := now }
  pure { record with costId := kernel.sha.sha256 (.obj record.identity) }

/-- The insertions of a plan cost and its copy. -/
def insertPlanCost (kernel : AccountingKernel) (db : AccountingDb) (record : PlanCostRecord)
    (outboxId : Uuid) : Except MacrError AccountingDb := do
  raiseIf (¬db.References record.runId) .integrity
  let planCosts ← require (db.planCosts.insert? record) .integrity
  let payload := Json.obj (("cost_id", .hex record.costId) :: record.identity ++
    [("observed_at", .time record.observedAt)])
  let planCostOutbox ← insertCopy db.planCostOutbox
    (copyEntry kernel.sha outboxId record.costId payload record.observedAt)
  pure { db with planCosts := planCosts, planCostOutbox := planCostOutbox }

/-- `record_plan_cost`. -/
def recordPlanCost (kernel : AccountingKernel) (db : AccountingDb) (now : Timestamp)
    (request : PlanCostRequest) (outboxId : Uuid) :
    Except MacrError (Committed AccountingDb PlanCostRecord) := do
  let record ← planCostRecord kernel now request
  match db.planCosts.rows.find? (fun row => row.planDigest = record.planDigest ∧
      row.idempotencyKey = record.idempotencyKey) with
  | some existing =>
    raiseIf ({ existing with observedAt := now } ≠ record)
      (.accountingConflict "plan cost conflicts with existing idempotency key")
    commit db existing
  | none =>
    let db ← onIntegrity
      (.accountingConflict "plan cost references missing invocation or conflicts")
      (insertPlanCost kernel db record outboxId)
    commit db record

/-- The insertions of a bill observation and its copy. -/
def insertBill (kernel : AccountingKernel) (db : AccountingDb) (bill : BillObservation)
    (outboxId : Uuid) : Except MacrError AccountingDb := do
  let observationId := bill.observationId kernel.sha
  raiseIf (db.accounts.find? bill.providerAccountId = none ∨ ¬db.References bill.runId) .integrity
  let bills ← require (db.bills.insert? { bill with observationId := observationId }) .integrity
  let billOutbox ← insertCopy db.billOutbox
    (copyEntry kernel.sha outboxId observationId (bill.toPublicDict kernel.sha) bill.observedAt)
  pure { db with bills := bills, billOutbox := billOutbox }

/-- `record_bill_observation`. -/
def recordBillObservation (kernel : AccountingKernel) (db : AccountingDb) (bill : BillObservation)
    (outboxId : Uuid) : Except MacrError (Committed AccountingDb Bool) :=
  match db.bills.rows.find? (fun row => row.sourceDigest = bill.sourceDigest) with
  | some existing => do
    raiseIf (existing.toBillObservation ≠ bill ∨
        existing.observationId ≠ bill.observationId kernel.sha)
      (.accountingConflict "bill observation conflicts with existing source digest")
    commit db false
  | none => do
    let db ← onIntegrity
      (.accountingConflict "bill observation references missing account or invocation")
      (insertBill kernel db bill outboxId)
    commit db true

/-- The separator of the names that are hashed to a UUID. -/
def uuidName (parts : List String) : String := "\x1f".intercalate parts

/-- `upsert_provider_account`; the currency is given in capitals. -/
def upsertProviderAccount (kernel : AccountingKernel) (db : AccountingDb) (now : Timestamp)
    (providerId fundingKind currency displayName : String) :
    Except MacrError (Committed AccountingDb Uuid) := do
  let provider ← nonEmpty "provider_id" providerId 256
  let funding ← nonEmpty "funding_kind" fundingKind 256
  let currency ← nonEmpty "currency" currency 16
  let display ← nonEmpty "display_name" displayName 256
  let accountId := kernel.uuid5 (uuidName [provider, funding, currency])
  match db.accounts.find? accountId with
  | some row =>
    raiseIf (row.providerId ≠ provider ∨ row.fundingKind ≠ funding ∨ row.currency ≠ currency ∨
        row.displayName ≠ display)
      (.accountingConflict "provider account conflicts with existing definition")
    commit db accountId
  | none =>
    raiseIf (∃ row ∈ db.accounts.rows, row.providerId = provider ∧ row.fundingKind = funding ∧
      row.currency = currency) .integrity
    let accounts ← require
      (db.accounts.insert? ⟨accountId, provider, funding, currency, display, now⟩) .integrity
    commit { db with accounts := accounts } accountId

/-- `INSERT INTO accounting_entries`. -/
def insertEntry (db : AccountingDb) (row : AccountingEntryRow) : Except MacrError AccountingDb := do
  raiseIf (db.accounts.find? row.accountId = none ∨ ¬db.References row.runId) .integrity
  raiseIf (∃ other ∈ db.entries.rows, other.accountId = row.accountId ∧
    other.entryKind = row.entryKind ∧ other.sourceKind = row.sourceKind ∧
    other.sourceDigest = row.sourceDigest) .integrity
  let entries ← require (db.entries.insert? row) .integrity
  pure { db with entries := entries }

/-- `append_accounting_entry`. -/
def appendAccountingEntry (kernel : AccountingKernel) (db : AccountingDb) (now : Timestamp)
    (accountId : Uuid) (runId : Option Uuid) (entryKind : String) (amount : ℚ)
    (sourceKind : String) (sourceDigest : Digest) :
    Except MacrError (Committed AccountingDb Uuid) := do
  let kind ← nonEmpty "entry_kind" entryKind 256
  let normalizedAmount ← money "amount" amount true
  let source ← nonEmpty "source_kind" sourceKind 256
  raiseIf (kind = "credit" ∧ normalizedAmount < 0)
    (.valueError "credit amount must be non-negative")
  raiseIf (kind = "debit" ∧ 0 < normalizedAmount)
    (.valueError "debit amount must be non-positive")
  let entryId := kernel.uuid5 (uuidName [uuidText accountId, kind, source, hexText 64 sourceDigest])
  match db.entries.find? entryId with
  | some existing =>
    raiseIf (existing.runId ≠ runId ∨ existing.amount ≠ normalizedAmount)
      (.accountingConflict "accounting entry conflicts with existing evidence")
    commit db entryId
  | none =>
    let db ← onIntegrity
      (.accountingConflict "accounting entry references a missing account or run")
      (db.insertEntry ⟨entryId, accountId, runId, kind, normalizedAmount, source, sourceDigest, now⟩)
    commit db entryId

/-- The checks `append_reconciliation` makes of its arguments. -/
def reconciliationRow (row : BillingReconciliationRow) :
    Except MacrError BillingReconciliationRow := do
  let authority ← nonEmpty "authority_source" row.authoritySource 256
  let amount ← money "amount" row.amount true
  let currency ← nonEmpty "currency" row.currency 16
  let status ← nonEmpty "payment_status" row.paymentStatus 256
  let tax ← optionalMoney "tax" row.tax
  let exchangeRate ← optionalMoney "exchange_rate" row.exchangeRate
  let credit ← optionalMoney "credit" row.credit
  let refund ← optionalMoney "refund" row.refund
  pure { row with
    authoritySource := authority
    amount := amount
    currency := currency
    paymentStatus := status
    tax := tax
    exchangeRate := exchangeRate
    credit := credit
    refund := refund }

/-- `INSERT INTO billing_reconciliations`. -/
def insertReconciliation (db : AccountingDb) (row : BillingReconciliationRow) :
    Except MacrError AccountingDb := do
  raiseIf (¬db.References (some row.runId)) .integrity
  let reconciliations ← require (db.reconciliations.insert? row) .integrity
  pure { db with reconciliations := reconciliations }

/-- `append_reconciliation`; its arguments are the columns of the row. -/
def appendReconciliation (db : AccountingDb) (given : BillingReconciliationRow) :
    Except MacrError (Committed AccountingDb Bool) := do
  let row ← reconciliationRow given
  match db.reconciliations.find? row.reconciliationId with
  | some existing =>
    raiseIf (existing ≠ row)
      (.accountingConflict "reconciliation conflicts with existing evidence")
    commit db false
  | none =>
    let db ← onIntegrity (.accountingConflict "reconciliation references a missing invocation")
      (db.insertReconciliation row)
    commit db true

end AccountingDb

/-! ## The store as a machine -/

/-- The calls that write, with what their caller supplies. -/
inductive AccountingCall where
  /-- `record_dispatch`. -/
  | recordDispatch (runId : Uuid) (context : DispatchContext) (providerId : String)
      (model : Option String) (estimateUsd : Option ℚ) (softWarning : Bool)
  /-- `record_observation`. -/
  | recordObservation (runId : Uuid) (observation : RawProviderObservation)
  /-- `record_terminal`. -/
  | recordTerminal (runId : Uuid) (candidateStatus billingState : String)
      (failureCode failureStage : Option String) (outboxId : Uuid)
  /-- `mark_soft_warning`. -/
  | markSoftWarning (runId : Uuid)
  /-- `record_plan_cost`. -/
  | recordPlanCost (request : AccountingDb.PlanCostRequest) (outboxId : Uuid)
  /-- `record_bill_observation`. -/
  | recordBillObservation (bill : BillObservation) (outboxId : Uuid)
  /-- `upsert_provider_account`. -/
  | upsertProviderAccount (providerId fundingKind currency displayName : String)
  /-- `append_accounting_entry`. -/
  | appendAccountingEntry (accountId : Uuid) (runId : Option Uuid) (entryKind : String)
      (amount : ℚ) (sourceKind : String) (sourceDigest : Digest)
  /-- `append_reconciliation`. -/
  | appendReconciliation (row : BillingReconciliationRow)

/-- A call at a time, which may fail before its commit. -/
structure AccountingAction where
  /-- The clock. -/
  now : Timestamp
  /-- Something fails inside the transaction. -/
  interrupted : Bool
  /-- The call. -/
  call : AccountingCall

namespace AccountingDb

/-- The database a call commits, if it commits. -/
def perform (kernel : AccountingKernel) (db : AccountingDb) (now : Timestamp) :
    AccountingCall → Except MacrError AccountingDb
  | .recordDispatch runId context providerId model estimateUsd softWarning =>
    (db.recordDispatch now runId context providerId model estimateUsd softWarning).map (·.1)
  | .recordObservation runId observation => (db.recordObservation runId observation).map (·.1)
  | .recordTerminal runId candidateStatus billingState failureCode failureStage outboxId =>
    (db.recordTerminal kernel now runId candidateStatus billingState failureCode failureStage
      outboxId).map (·.1)
  | .markSoftWarning runId => (db.markSoftWarning runId).map (·.1)
  | .recordPlanCost request outboxId => (db.recordPlanCost kernel now request outboxId).map (·.1)
  | .recordBillObservation bill outboxId =>
    (db.recordBillObservation kernel bill outboxId).map (·.1)
  | .upsertProviderAccount providerId fundingKind currency displayName =>
    (db.upsertProviderAccount kernel now providerId fundingKind currency displayName).map (·.1)
  | .appendAccountingEntry accountId runId entryKind amount sourceKind sourceDigest =>
    (db.appendAccountingEntry kernel now accountId runId entryKind amount sourceKind
      sourceDigest).map (·.1)
  | .appendReconciliation row => (db.appendReconciliation row).map (·.1)

/-- One call. An error, and a failure inside the transaction, rolls back. -/
def step (kernel : AccountingKernel) (db : AccountingDb) (action : AccountingAction) :
    AccountingDb :=
  if action.interrupted then db
  else match db.perform kernel action.now action.call with
    | .ok after => after
    | .error _ => db

/-- The accounting store as a machine. -/
def machine (kernel : AccountingKernel) : Machine AccountingDb AccountingAction := ⟨step kernel⟩

end AccountingDb

end Macr
