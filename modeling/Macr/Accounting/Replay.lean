import Macr.Accounting.Outbox

/-!
# Repeated evidence

Six calls write evidence, and each looks for the row of its key before it inserts one. A repeated
call must find in every later state what it compares itself with. Five of the tables only grow. The
invocations do not: a soft warning is one of the columns that a repeated dispatch is compared on,
and `mark_soft_warning` changes it.
-/

namespace Macr

open Lib

namespace AccountingCall

/-- The calls that write evidence. -/
def WritesEvidence : AccountingCall → Prop
  | .recordObservation .. | .recordTerminal .. | .markSoftWarning .. => False
  | _ => True

/-- Two calls write evidence under one key. -/
def SameKey : AccountingCall → AccountingCall → Prop
  | .recordDispatch runId .., .recordDispatch other .. => runId = other
  | .recordPlanCost request _, .recordPlanCost other _ =>
    request.planDigest = other.planDigest ∧ request.idempotencyKey = other.idempotencyKey
  | .recordBillObservation bill _, .recordBillObservation other _ =>
    bill.sourceDigest = other.sourceDigest
  | .upsertProviderAccount provider funding currency _,
      .upsertProviderAccount provider' funding' currency' _ =>
    provider = provider' ∧ funding = funding' ∧ currency = currency'
  | .appendAccountingEntry account _ kind _ source digest,
      .appendAccountingEntry account' _ kind' _ source' digest' =>
    account = account' ∧ kind = kind' ∧ source = source' ∧ digest = digest'
  | .appendReconciliation row, .appendReconciliation other =>
    row.reconciliationId = other.reconciliationId
  | _, _ => False

/-- A call but for the id that is drawn for its copy. -/
def content : AccountingCall → AccountingCall
  | .recordPlanCost request _ => .recordPlanCost request 0
  | .recordBillObservation bill _ => .recordBillObservation bill 0
  | call => call

/-- A call marks the invocation that another one dispatched without a warning. -/
def Overwrites (marking : AccountingCall) : AccountingCall → Prop
  | .recordDispatch runId _ _ _ _ softWarning =>
    softWarning = false ∧ marking = .markSoftWarning runId
  | _ => False

end AccountingCall

/-- An action commits a mark on the invocation that a call dispatched without a warning. -/
def AccountingAction.Overwrites (action : AccountingAction) (call : AccountingCall) : Prop :=
  action.interrupted = false ∧ action.call.Overwrites call

/-- The document that the copy of a plan cost holds. -/
def PlanCostRecord.outboxPayload (record : PlanCostRecord) : Json :=
  .obj (("cost_id", .hex record.costId) :: record.identity ++
    [("observed_at", .time record.observedAt)])

/-- The document of a stored bill observation. -/
def BillObservationRow.outboxPayload (row : BillObservationRow) : Json :=
  .obj (("observation_id", .hex row.observationId) :: row.canonical)

namespace AccountingDb

variable {kernel : AccountingKernel} {db after : AccountingDb} {now : Timestamp}

/-- The stored plan cost of a plan and a caller's key. -/
def planCost? (db : AccountingDb) (planDigest : Digest) (idempotencyKey : String) :
    Option PlanCostRecord :=
  db.planCosts.rows.find? (fun row => row.planDigest = planDigest ∧
    row.idempotencyKey = idempotencyKey)

/-- The stored bill observation of a source. -/
def bill? (db : AccountingDb) (sourceDigest : Digest) : Option BillObservationRow :=
  db.bills.rows.find? (fun row => row.sourceDigest = sourceDigest)

/-- The id an account is stored under. -/
def accountKey (kernel : AccountingKernel) (provider funding currency : String) : Uuid :=
  kernel.uuid5 (uuidName [provider, funding, currency])

/-- The id an accounting entry is stored under. -/
def entryKey (kernel : AccountingKernel) (accountId : Uuid) (kind source : String)
    (sourceDigest : Digest) : Uuid :=
  kernel.uuid5 (uuidName [uuidText accountId, kind, source, hexText 64 sourceDigest])

/-- The arguments of a call pass its checks, and the row of its key holds what it writes. -/
def Holds (kernel : AccountingKernel) (db : AccountingDb) : AccountingCall → Prop
  | .recordDispatch runId context providerId model estimateUsd softWarning =>
    context.runId = runId ∧ nonEmpty "provider_id" providerId 256 = .ok providerId ∧
      checkOptional (nonEmpty "model" · 512) model = .ok model ∧
      optionalMoney "estimate_usd" estimateUsd = .ok estimateUsd ∧
      ∃ row, db.invocation? runId = some row ∧ dispatchValues row = dispatchValues
        (newInvocation 0 runId context providerId model estimateUsd softWarning)
  | .recordPlanCost request _ =>
    ∃ record existing, planCostRecord kernel 0 request = .ok record ∧
      db.planCost? record.planDigest record.idempotencyKey = some existing ∧
      { existing with observedAt := 0 } = record
  | .recordBillObservation bill _ =>
    ∃ existing, db.bill? bill.sourceDigest = some existing ∧
      existing.toBillObservation = bill ∧ existing.observationId = bill.observationId kernel.sha
  | .upsertProviderAccount provider funding currency display =>
    nonEmpty "provider_id" provider 256 = .ok provider ∧
      nonEmpty "funding_kind" funding 256 = .ok funding ∧
      nonEmpty "currency" currency 16 = .ok currency ∧
      nonEmpty "display_name" display 256 = .ok display ∧
      ∃ row, db.accounts.find? (accountKey kernel provider funding currency) = some row ∧
        row.providerId = provider ∧ row.fundingKind = funding ∧ row.currency = currency ∧
        row.displayName = display
  | .appendAccountingEntry accountId runId kind amount source sourceDigest =>
    nonEmpty "entry_kind" kind 256 = .ok kind ∧ money "amount" amount true = .ok amount ∧
      nonEmpty "source_kind" source 256 = .ok source ∧ ¬(kind = "credit" ∧ amount < 0) ∧
      ¬(kind = "debit" ∧ 0 < amount) ∧
      ∃ row, db.entries.find? (entryKey kernel accountId kind source sourceDigest) = some row ∧
        row.runId = runId ∧ row.amount = amount
  | .appendReconciliation row =>
    reconciliationRow row = .ok row ∧ db.reconciliations.find? row.reconciliationId = some row
  | _ => False

/-- A call of the same key is answered as a repetition: the same content succeeds and changes
nothing, and another content is refused. -/
def Recognises (kernel : AccountingKernel) (db : AccountingDb) (call : AccountingCall) : Prop :=
  ∀ now other, call.SameKey other →
    (other.content = call.content → db.perform kernel now other = .ok db) ∧
      (other.content ≠ call.content → ∃ raised, db.perform kernel now other = .error raised)

/-! ## Arguments -/

/-- A checked text is the text. -/
theorem nonEmpty_eq_ok {name text checked : String} {maximum : Nat}
    (passed : nonEmpty name text maximum = .ok checked) : checked = text := by
  simp only [nonEmpty, bind_eq_ok, raiseIf_eq_ok, exists_const, pure_eq_ok] at passed
  exact passed.2.symm

/-- A checked identifier is the identifier. -/
theorem safeId_eq_ok {name text checked : String} {maximum : Nat}
    (passed : safeId name text maximum = .ok checked) : checked = text := by
  simp only [safeId, bind_eq_ok, raiseIf_eq_ok, exists_const, pure_eq_ok] at passed
  obtain ⟨normalized, bounded, _, rfl⟩ := passed
  exact nonEmpty_eq_ok bounded

/-- A checked amount is the amount. -/
theorem money_eq_ok {name : String} {amount checked : ℚ} {signed : Bool}
    (passed : money name amount signed = .ok checked) : checked = amount := by
  simp only [money, bind_eq_ok, raiseIf_eq_ok, exists_const, pure_eq_ok] at passed
  exact passed.2.symm

/-- A checked optional value is the value, when its check returns what it is given. -/
theorem checkOptional_eq_ok {α : Type} {check : α → Except MacrError α} {given checked : Option α}
    (same : ∀ value result, check value = .ok result → result = value)
    (passed : checkOptional check given = .ok checked) : checked = given := by
  cases given with
  | none => exact (Except.ok.inj passed).symm
  | some value =>
    obtain ⟨result, accepted, rfl⟩ := (except_map_eq_ok).mp passed
    rw [same value result accepted]

/-- A checked optional amount is the amount. -/
theorem optionalMoney_eq_ok {name : String} {given checked : Option ℚ}
    (passed : optionalMoney name given = .ok checked) : checked = given := by
  cases given with
  | none => exact (Except.ok.inj passed).symm
  | some value =>
    obtain ⟨result, accepted, rfl⟩ := (except_map_eq_ok).mp passed
    rw [money_eq_ok accepted]

/-- The checks of a plan cost do not look at the clock. -/
theorem planCostRecord_now (request : PlanCostRequest) :
    planCostRecord kernel now request =
      (planCostRecord kernel 0 request).map (fun record => { record with observedAt := now }) := by
  unfold planCostRecord
  cases CostClass.ofText request.costClass with
  | none => rfl
  | some costClass =>
    cases money "amount_usd" request.amountUsd false with
    | error raised => rfl
    | ok amount =>
      cases safeId "cost_kind" request.costKind 256 with
      | error raised => rfl
      | ok kind =>
        cases safeId "idempotency_key" request.idempotencyKey 512 with
        | error raised => rfl
        | ok idempotency => rfl

/-- A stored plan cost tells what was asked for. -/
theorem planCostRecord_eq_ok {request : PlanCostRequest} {record : PlanCostRecord}
    (checked : planCostRecord kernel now request = .ok record) :
    record.planDigest = request.planDigest ∧ record.idempotencyKey = request.idempotencyKey ∧
      record.runId = request.runId ∧ CostClass.ofText request.costClass = some record.costClass ∧
      record.amountUsd = request.amountUsd ∧ record.costKind = request.costKind ∧
      record.pricingBasisDigest = request.pricingBasisDigest ∧
      record.roleDigest = request.roleDigest ∧ record.routeId = request.routeId := by
  simp only [planCostRecord, bind_eq_ok, require_eq_ok, pure_eq_ok] at checked
  obtain ⟨costClass, named, amount, amounted, kind, kinded, idempotency, keyed, rfl⟩ := checked
  exact ⟨rfl, safeId_eq_ok keyed, rfl, named, money_eq_ok amounted, safeId_eq_ok kinded, rfl, rfl,
    rfl⟩

/-- A checked reconciliation is the one that was given. -/
theorem reconciliationRow_eq_ok {given row : BillingReconciliationRow}
    (checked : reconciliationRow given = .ok row) : row = given := by
  simp only [reconciliationRow, bind_eq_ok, pure_eq_ok] at checked
  obtain ⟨authority, h₁, amount, h₂, currency, h₃, status, h₄, tax, h₅, rate, h₆, credit, h₇,
    refund, h₈, rfl⟩ := checked
  rw [nonEmpty_eq_ok h₁, money_eq_ok h₂, nonEmpty_eq_ok h₃, nonEmpty_eq_ok h₄,
    optionalMoney_eq_ok h₅, optionalMoney_eq_ok h₆, optionalMoney_eq_ok h₇, optionalMoney_eq_ok h₈]

/-- The texts of two classes differ. -/
theorem costClass_injective {left right : String} {costClass : CostClass}
    (first : CostClass.ofText left = some costClass)
    (second : CostClass.ofText right = some costClass) : left = right := by
  have known : ∀ text, CostClass.ofText text = some costClass → text = costClass.value := by
    intro text found
    unfold CostClass.ofText at found
    split at found <;> first | cases found; rfl | cases found
  rw [known left first, known right second]

/-! ## What a commit leaves -/

/-- A dispatch that commits is held. -/
theorem holds_of_recordDispatch {runId : Uuid} {context : DispatchContext} {providerId : String}
    {model : Option String} {estimateUsd : Option ℚ} {softWarning : Bool}
    {result : Committed AccountingDb Bool}
    (done : db.recordDispatch now runId context providerId model estimateUsd softWarning =
      .ok result) :
    Holds kernel result.1
      (.recordDispatch runId context providerId model estimateUsd softWarning) := by
  simp only [recordDispatch, bind_eq_ok, raiseIf_eq_ok, exists_const, ne_eq, not_not] at done
  obtain ⟨named, provider, provided, requested, modelled, estimate, estimated, done⟩ := done
  cases nonEmpty_eq_ok provided
  cases checkOptional_eq_ok (fun _ _ => nonEmpty_eq_ok) modelled
  cases optionalMoney_eq_ok estimated
  refine ⟨named, provided, modelled, estimated, ?_⟩
  cases stored : db.invocation? runId with
  | some existing =>
    rw [stored] at done
    simp only [bind_eq_ok, raiseIf_eq_ok, exists_const, commit_eq_ok, not_not] at done
    obtain ⟨same, rfl⟩ := done
    exact ⟨existing, stored, same⟩
  | none =>
    rw [stored] at done
    simp only [bind_eq_ok, require_eq_ok, commit_eq_ok] at done
    obtain ⟨invocations, inserted, rfl⟩ := done
    refine ⟨newInvocation now runId context providerId model estimateUsd softWarning, ?_, rfl⟩
    show invocations.find? runId = _
    rw [Table.find?_of_insert? inserted]
    exact if_pos rfl

/-- A plan cost that commits is held. -/
theorem holds_of_recordPlanCost {request : PlanCostRequest} {outboxId : Uuid}
    {result : Committed AccountingDb PlanCostRecord}
    (done : db.recordPlanCost kernel now request outboxId = .ok result) :
    Holds kernel result.1 (.recordPlanCost request outboxId) := by
  simp only [recordPlanCost, bind_eq_ok] at done
  rw [planCostRecord_now] at done
  simp only [except_map_eq_ok] at done
  obtain ⟨_, ⟨record, checked, rfl⟩, done⟩ := done
  have unobserved : record.observedAt = 0 := by
    simp only [planCostRecord, bind_eq_ok, pure_eq_ok] at checked
    obtain ⟨_, _, _, _, _, _, _, _, rfl⟩ := checked
    rfl
  cases found : db.planCost? record.planDigest record.idempotencyKey with
  | some existing =>
    rw [planCost?] at found
    simp only [found, bind_eq_ok, raiseIf_eq_ok, exists_const, commit_eq_ok, not_not] at done
    obtain ⟨same, rfl⟩ := done
    refine ⟨record, existing, checked, found, ?_⟩
    rw [← unobserved]
    exact congrArg (fun row : PlanCostRecord => { row with observedAt := record.observedAt }) same
  | none =>
    rw [planCost?] at found
    simp only [found, bind_eq_ok, onIntegrity_eq_ok, commit_eq_ok, insertPlanCost, raiseIf_eq_ok,
      exists_const, require_eq_ok, pure_eq_ok] at done
    obtain ⟨written, ⟨_, planCosts, inserted, _, _, rfl⟩, rfl⟩ := done
    refine ⟨record, { record with observedAt := now }, checked, ?_, ?_⟩
    · show planCosts.rows.find? _ = _
      rw [Table.rows_of_insert? inserted, List.find?_append, found]
      simp
    · rw [← unobserved]

/-- A bill observation that commits is held. -/
theorem holds_of_recordBillObservation {bill : BillObservation} {outboxId : Uuid}
    {result : Committed AccountingDb Bool}
    (done : db.recordBillObservation kernel bill outboxId = .ok result) :
    Holds kernel result.1 (.recordBillObservation bill outboxId) := by
  unfold recordBillObservation at done
  cases found : db.bill? bill.sourceDigest with
  | some existing =>
    rw [bill?] at found
    simp only [found, bind_eq_ok, raiseIf_eq_ok, exists_const, commit_eq_ok, not_or,
      not_not] at done
    obtain ⟨same, rfl⟩ := done
    exact ⟨existing, found, same⟩
  | none =>
    rw [bill?] at found
    simp only [found, bind_eq_ok, onIntegrity_eq_ok, commit_eq_ok, insertBill, raiseIf_eq_ok,
      exists_const, require_eq_ok, pure_eq_ok] at done
    obtain ⟨written, ⟨_, bills, inserted, _, _, rfl⟩, rfl⟩ := done
    refine ⟨{ bill with observationId := bill.observationId kernel.sha }, ?_, rfl, rfl⟩
    show bills.rows.find? _ = _
    rw [Table.rows_of_insert? inserted, List.find?_append, found]
    simp

/-- An account that commits is held. -/
theorem holds_of_upsertProviderAccount {provider funding currency display : String}
    {result : Committed AccountingDb Uuid}
    (done : db.upsertProviderAccount kernel now provider funding currency display = .ok result) :
    Holds kernel result.1 (.upsertProviderAccount provider funding currency display) := by
  simp only [upsertProviderAccount, bind_eq_ok] at done
  obtain ⟨_, h₁, _, h₂, _, h₃, _, h₄, done⟩ := done
  cases nonEmpty_eq_ok h₁
  cases nonEmpty_eq_ok h₂
  cases nonEmpty_eq_ok h₃
  cases nonEmpty_eq_ok h₄
  refine ⟨h₁, h₂, h₃, h₄, ?_⟩
  cases found : db.accounts.find? (accountKey kernel provider funding currency) with
  | some row =>
    rw [accountKey] at found
    simp only [found, bind_eq_ok, raiseIf_eq_ok, exists_const, commit_eq_ok, not_or,
      not_not] at done
    obtain ⟨same, rfl⟩ := done
    exact ⟨row, found, same⟩
  | none =>
    rw [accountKey] at found
    simp only [found, bind_eq_ok, raiseIf_eq_ok, exists_const, require_eq_ok, commit_eq_ok] at done
    obtain ⟨_, accounts, inserted, rfl⟩ := done
    refine ⟨⟨accountKey kernel provider funding currency, provider, funding, currency, display,
      now⟩, ?_, rfl, rfl, rfl, rfl⟩
    show accounts.find? _ = _
    rw [Table.find?_of_insert? inserted]
    exact if_pos rfl

/-- An accounting entry that commits is held. -/
theorem holds_of_appendAccountingEntry {accountId : Uuid} {runId : Option Uuid}
    {kind source : String} {amount : ℚ} {sourceDigest : Digest}
    {result : Committed AccountingDb Uuid}
    (done : db.appendAccountingEntry kernel now accountId runId kind amount source sourceDigest =
      .ok result) :
    Holds kernel result.1
      (.appendAccountingEntry accountId runId kind amount source sourceDigest) := by
  simp only [appendAccountingEntry, bind_eq_ok, raiseIf_eq_ok, exists_const] at done
  obtain ⟨_, h₁, _, h₂, _, h₃, credit, debit, done⟩ := done
  cases nonEmpty_eq_ok h₁
  cases money_eq_ok h₂
  cases nonEmpty_eq_ok h₃
  refine ⟨h₁, h₂, h₃, credit, debit, ?_⟩
  cases found : db.entries.find? (entryKey kernel accountId kind source sourceDigest) with
  | some row =>
    rw [entryKey] at found
    simp only [found, bind_eq_ok, raiseIf_eq_ok, exists_const, commit_eq_ok, not_or,
      not_not] at done
    obtain ⟨same, rfl⟩ := done
    exact ⟨row, found, same⟩
  | none =>
    rw [entryKey] at found
    simp only [found, bind_eq_ok, onIntegrity_eq_ok, commit_eq_ok, insertEntry, raiseIf_eq_ok,
      exists_const, require_eq_ok, pure_eq_ok] at done
    obtain ⟨written, ⟨_, _, entries, inserted, rfl⟩, rfl⟩ := done
    refine ⟨⟨entryKey kernel accountId kind source sourceDigest, accountId, runId, kind, amount,
      source, sourceDigest, now⟩, ?_, rfl, rfl⟩
    show entries.find? _ = _
    rw [Table.find?_of_insert? inserted]
    exact if_pos rfl

/-- A reconciliation that commits is held. -/
theorem holds_of_appendReconciliation {given : BillingReconciliationRow}
    {result : Committed AccountingDb Bool} (done : db.appendReconciliation given = .ok result) :
    Holds kernel result.1 (.appendReconciliation given) := by
  simp only [appendReconciliation, bind_eq_ok] at done
  obtain ⟨_, checked, done⟩ := done
  cases reconciliationRow_eq_ok checked
  refine ⟨checked, ?_⟩
  cases found : db.reconciliations.find? given.reconciliationId with
  | some existing =>
    simp only [found, bind_eq_ok, raiseIf_eq_ok, exists_const, commit_eq_ok, not_not] at done
    obtain ⟨rfl, rfl⟩ := done
    exact found
  | none =>
    simp only [found, bind_eq_ok, onIntegrity_eq_ok, commit_eq_ok, insertReconciliation,
      raiseIf_eq_ok, exists_const, require_eq_ok, pure_eq_ok] at done
    obtain ⟨written, ⟨_, reconciliations, inserted, rfl⟩, rfl⟩ := done
    show reconciliations.find? _ = _
    rw [Table.find?_of_insert? inserted]
    exact if_pos rfl

/-- Evidence that a call commits is held. -/
theorem holds_of_perform {call : AccountingCall} (evidence : call.WritesEvidence)
    (done : db.perform kernel now call = .ok after) : Holds kernel after call := by
  cases call <;> simp only [perform, except_map_eq_ok] at done <;>
    obtain ⟨result, done, rfl⟩ := done
  case recordDispatch => exact holds_of_recordDispatch done
  case recordPlanCost => exact holds_of_recordPlanCost done
  case recordBillObservation => exact holds_of_recordBillObservation done
  case upsertProviderAccount => exact holds_of_upsertProviderAccount done
  case appendAccountingEntry => exact holds_of_appendAccountingEntry done
  case appendReconciliation => exact holds_of_appendReconciliation done
  all_goals exact evidence.elim

/-! ## What a call keeps -/

/-- The tables of evidence other than the invocations grow. -/
structure Grown (db after : AccountingDb) : Prop where
  /-- `provider_accounts`. -/
  accounts : db.accounts.rows <+: after.accounts.rows
  /-- `accounting_entries`. -/
  entries : db.entries.rows <+: after.entries.rows
  /-- `billing_reconciliations`. -/
  reconciliations : db.reconciliations.rows <+: after.reconciliations.rows
  /-- `plan_costs`. -/
  planCosts : db.planCosts.rows <+: after.planCosts.rows
  /-- `bill_observations`. -/
  bills : db.bills.rows <+: after.bills.rows

/-- A database has grown from itself. -/
theorem Grown.refl (db : AccountingDb) : Grown db db :=
  ⟨List.prefix_refl _, List.prefix_refl _, List.prefix_refl _, List.prefix_refl _,
    List.prefix_refl _⟩

/-- Writing invocations and their outbox leaves the other tables. -/
theorem grown_of_written {invocations : Table (fun row : InvocationRow => row.runId)}
    {outbox : Table (fun row : AccountingOutboxRow => row.outboxId)}
    (written : after = { db with invocations := invocations, outbox := outbox }) :
    Grown db after := by
  subst written
  exact ⟨List.prefix_refl _, List.prefix_refl _, List.prefix_refl _, List.prefix_refl _,
    List.prefix_refl _⟩

/-- An insertion makes a table longer. -/
theorem prefix_of_insert? {κ α : Type} [DecidableEq κ] {key : α → κ} {table next : Table key}
    {row : α} (inserted : table.insert? row = some next) : table.rows <+: next.rows := by
  rw [Table.rows_of_insert? inserted]
  exact List.prefix_append _ _

/-- A warning leaves the other tables. -/
theorem grown_of_markSoftWarning {runId : Uuid} {result : Committed AccountingDb Unit}
    (done : db.markSoftWarning runId = .ok result) : Grown db result.1 := by
  simp only [markSoftWarning, bind_eq_ok, require_eq_ok] at done
  obtain ⟨row, _, done⟩ := done
  by_cases unmarked : row.softWarning = false
  · rw [if_pos unmarked, commit_eq_ok] at done
    exact grown_of_written (by rw [done]; rfl)
  · rw [if_neg unmarked, commit_eq_ok] at done
    exact grown_of_written (by rw [done])

/-- A plan cost is appended, or was there. -/
theorem grown_of_recordPlanCost {request : PlanCostRequest} {outboxId : Uuid}
    {result : Committed AccountingDb PlanCostRecord}
    (done : db.recordPlanCost kernel now request outboxId = .ok result) : Grown db result.1 := by
  simp only [recordPlanCost, bind_eq_ok] at done
  obtain ⟨record, _, done⟩ := done
  split at done
  · simp only [bind_eq_ok, raiseIf_eq_ok, exists_const, commit_eq_ok] at done
    rw [done.2]
    exact .refl db
  · simp only [bind_eq_ok, onIntegrity_eq_ok, commit_eq_ok, insertPlanCost, raiseIf_eq_ok,
      exists_const, require_eq_ok, pure_eq_ok] at done
    obtain ⟨written, ⟨_, planCosts, inserted, _, _, rfl⟩, rfl⟩ := done
    exact { Grown.refl db with planCosts := prefix_of_insert? inserted }

/-- A bill observation is appended, or was there. -/
theorem grown_of_recordBillObservation {bill : BillObservation} {outboxId : Uuid}
    {result : Committed AccountingDb Bool}
    (done : db.recordBillObservation kernel bill outboxId = .ok result) : Grown db result.1 := by
  unfold recordBillObservation at done
  split at done
  · simp only [bind_eq_ok, raiseIf_eq_ok, exists_const, commit_eq_ok] at done
    rw [done.2]
    exact .refl db
  · simp only [bind_eq_ok, onIntegrity_eq_ok, commit_eq_ok, insertBill, raiseIf_eq_ok,
      exists_const, require_eq_ok, pure_eq_ok] at done
    obtain ⟨written, ⟨_, bills, inserted, _, _, rfl⟩, rfl⟩ := done
    exact { Grown.refl db with bills := prefix_of_insert? inserted }

/-- An account is appended, or was there. -/
theorem grown_of_upsertProviderAccount {provider funding currency display : String}
    {result : Committed AccountingDb Uuid}
    (done : db.upsertProviderAccount kernel now provider funding currency display = .ok result) :
    Grown db result.1 := by
  simp only [upsertProviderAccount, bind_eq_ok] at done
  obtain ⟨_, _, _, _, _, _, _, _, done⟩ := done
  split at done
  · simp only [bind_eq_ok, raiseIf_eq_ok, exists_const, commit_eq_ok] at done
    rw [done.2]
    exact .refl db
  · simp only [bind_eq_ok, raiseIf_eq_ok, exists_const, require_eq_ok, commit_eq_ok] at done
    obtain ⟨_, accounts, inserted, rfl⟩ := done
    exact { Grown.refl db with accounts := prefix_of_insert? inserted }

/-- An accounting entry is appended, or was there. -/
theorem grown_of_appendAccountingEntry {accountId : Uuid} {runId : Option Uuid}
    {kind source : String} {amount : ℚ} {sourceDigest : Digest}
    {result : Committed AccountingDb Uuid}
    (done : db.appendAccountingEntry kernel now accountId runId kind amount source sourceDigest =
      .ok result) : Grown db result.1 := by
  simp only [appendAccountingEntry, bind_eq_ok, raiseIf_eq_ok, exists_const] at done
  obtain ⟨_, _, _, _, _, _, _, _, done⟩ := done
  split at done
  · simp only [bind_eq_ok, raiseIf_eq_ok, exists_const, commit_eq_ok] at done
    rw [done.2]
    exact .refl db
  · simp only [bind_eq_ok, onIntegrity_eq_ok, commit_eq_ok, insertEntry, raiseIf_eq_ok,
      exists_const, require_eq_ok, pure_eq_ok] at done
    obtain ⟨written, ⟨_, _, entries, inserted, rfl⟩, rfl⟩ := done
    exact { Grown.refl db with entries := prefix_of_insert? inserted }

/-- A reconciliation is appended, or was there. -/
theorem grown_of_appendReconciliation {given : BillingReconciliationRow}
    {result : Committed AccountingDb Bool} (done : db.appendReconciliation given = .ok result) :
    Grown db result.1 := by
  simp only [appendReconciliation, bind_eq_ok] at done
  obtain ⟨row, _, done⟩ := done
  split at done
  · simp only [bind_eq_ok, raiseIf_eq_ok, exists_const, commit_eq_ok] at done
    rw [done.2]
    exact .refl db
  · simp only [bind_eq_ok, onIntegrity_eq_ok, commit_eq_ok, insertReconciliation, raiseIf_eq_ok,
      exists_const, require_eq_ok, pure_eq_ok] at done
    obtain ⟨written, ⟨_, reconciliations, inserted, rfl⟩, rfl⟩ := done
    exact { Grown.refl db with reconciliations := prefix_of_insert? inserted }

/-- Every call that commits lets the tables grow. -/
theorem grown_of_perform {call : AccountingCall} (done : db.perform kernel now call = .ok after) :
    Grown db after := by
  cases call <;> simp only [perform, except_map_eq_ok] at done <;>
    obtain ⟨result, done, rfl⟩ := done
  case recordDispatch =>
    obtain ⟨_, ⟨same, _⟩ | ⟨_, _, _, written⟩⟩ := recordDispatch_eq_ok done
    · exact grown_of_written same
    · exact grown_of_written written
  case recordObservation =>
    obtain ⟨_, _, _, _, ⟨_, _, same⟩ | ⟨_, written⟩⟩ := recordObservation_eq_ok done
    · exact grown_of_written same
    · exact grown_of_written written
  case recordTerminal =>
    obtain ⟨_, _, _, _, ⟨_, _, same⟩ | ⟨_, _, _, _, written⟩⟩ := recordTerminal_eq_ok done
    · exact grown_of_written same
    · exact grown_of_written written
  case markSoftWarning => exact grown_of_markSoftWarning done
  case recordPlanCost => exact grown_of_recordPlanCost done
  case recordBillObservation => exact grown_of_recordBillObservation done
  case upsertProviderAccount => exact grown_of_upsertProviderAccount done
  case appendAccountingEntry => exact grown_of_appendAccountingEntry done
  case appendReconciliation => exact grown_of_appendReconciliation done

/-- An invocation keeps its dispatch, and its warning unless the call marks it. -/
theorem dispatch_of_effect {call : AccountingCall}
    (effect : InvocationEffect kernel db now call after) {runId : Uuid} {row : InvocationRow}
    (stored : db.invocation? runId = some row) :
    ∃ later, after.invocation? runId = some later ∧
      later.toDispatchColumns = row.toDispatchColumns ∧
      (later.softWarning = row.softWarning ∨
        call = .markSoftWarning runId ∧ later.softWarning = true) := by
  cases effect with
  | kept invocations outbox =>
    refine ⟨row, ?_, rfl, .inl rfl⟩
    rw [invocation?, invocations]
    exact stored
  | dispatched new fresh inserted outbox opened unobserved =>
    refine ⟨row, ?_, rfl, .inl rfl⟩
    rw [invocation_insert inserted, if_neg (ne_of_fresh fresh stored)]
    exact stored
  | observed old observation found opened written =>
    rw [written, invocation_updateInvocation, stored]
    by_cases chosen : runId = old.runId
    · exact ⟨_, if_pos chosen, rfl, .inl rfl⟩
    · exact ⟨_, if_neg chosen, rfl, .inl rfl⟩
  | terminated old values outboxId found opened observed alone fresh invocations outbox called =>
    rw [invocation_terminated found invocations]
    by_cases chosen : runId = old.runId
    · rw [if_pos chosen]
      rw [chosen, found] at stored
      cases stored
      exact ⟨_, rfl, rfl, .inl rfl⟩
    · rw [if_neg chosen]
      exact ⟨_, stored, rfl, .inl rfl⟩
  | warned old found unmarked called written =>
    rw [written, invocation_updateInvocation, stored]
    by_cases chosen : runId = old.runId
    · exact ⟨_, if_pos chosen, rfl, .inr ⟨by rw [called, chosen], rfl⟩⟩
    · exact ⟨_, if_neg chosen, rfl, .inl rfl⟩

/-- A row found in a table is found in a longer one. -/
theorem find?_of_prefix {α : Type} {rows longer : List α} {test : α → Bool} {row : α}
    (grown : rows <+: longer) (found : rows.find? test = some row) :
    longer.find? test = some row := by
  obtain ⟨added, rfl⟩ := grown
  rw [List.find?_append, found]
  rfl

/-- What is held stays held, unless a warning overwrites it. -/
theorem Holds.of_perform {call committed : AccountingCall} (held : Holds kernel db call)
    (done : db.perform kernel now committed = .ok after) (other : ¬committed.Overwrites call) :
    Holds kernel after call := by
  have grown := grown_of_perform done
  cases call with
  | recordDispatch runId context providerId model estimateUsd softWarning =>
    obtain ⟨named, provided, modelled, estimated, row, stored, same⟩ := held
    obtain ⟨later, found, columns, warning⟩ := dispatch_of_effect (effect_of_perform done) stored
    refine ⟨named, provided, modelled, estimated, later, found, ?_⟩
    rw [← same]
    have kept : later.softWarning = row.softWarning := by
      rcases warning with kept | ⟨marks, marked⟩
      · exact kept
      · have warned : row.softWarning = softWarning := congrArg Prod.snd same
        cases softWarning with
        | false => exact absurd ⟨rfl, marks⟩ other
        | true => rw [marked, warned]
    simp only [dispatchValues, columns, kept]
  | recordPlanCost request outboxId =>
    obtain ⟨record, existing, checked, found, same⟩ := held
    exact ⟨record, existing, checked, find?_of_prefix grown.planCosts found, same⟩
  | recordBillObservation bill outboxId =>
    obtain ⟨existing, found, same⟩ := held
    exact ⟨existing, find?_of_prefix grown.bills found, same⟩
  | upsertProviderAccount provider funding currency display =>
    obtain ⟨h₁, h₂, h₃, h₄, row, found, same⟩ := held
    exact ⟨h₁, h₂, h₃, h₄, row, find?_of_prefix grown.accounts found, same⟩
  | appendAccountingEntry accountId runId kind amount source sourceDigest =>
    obtain ⟨h₁, h₂, h₃, credit, debit, row, found, same⟩ := held
    exact ⟨h₁, h₂, h₃, credit, debit, row, find?_of_prefix grown.entries found, same⟩
  | appendReconciliation row =>
    exact ⟨held.1, find?_of_prefix grown.reconciliations held.2⟩
  | recordObservation => exact held.elim
  | recordTerminal => exact held.elim
  | markSoftWarning => exact held.elim

/-! ## Repetition -/

/-- A call whose evidence is held commits the database as it is. -/
theorem perform_of_holds {call : AccountingCall} (held : Holds kernel db call) (now : Timestamp) :
    db.perform kernel now call = .ok db := by
  cases call with
  | recordDispatch runId context providerId model estimateUsd softWarning =>
    obtain ⟨named, provided, modelled, estimated, row, stored, same⟩ := held
    have replayed : db.recordDispatch now runId context providerId model estimateUsd softWarning =
        commit db false := by
      simp only [recordDispatch, provided, modelled, estimated, ok_bind, stored]
      rw [raiseIf_bind_of_not (not_not.mpr named)]
      exact raiseIf_bind_of_not (not_not.mpr same)
    simp only [perform, replayed]
    rfl
  | recordPlanCost request outboxId =>
    obtain ⟨record, existing, checked, found, same⟩ := held
    have replayed : db.recordPlanCost kernel now request outboxId = commit db existing := by
      rw [planCost?] at found
      simp only [recordPlanCost]
      rw [planCostRecord_now, checked]
      simp only [Except.map, ok_bind, found]
      refine raiseIf_bind_of_not (not_not.mpr ?_)
      rw [← same]
    simp only [perform, replayed]
    rfl
  | recordBillObservation bill outboxId =>
    obtain ⟨existing, found, same, named⟩ := held
    have replayed : db.recordBillObservation kernel bill outboxId = commit db false := by
      rw [bill?] at found
      simp only [recordBillObservation, found]
      refine raiseIf_bind_of_not ?_
      exact not_or.mpr ⟨not_not.mpr same, not_not.mpr named⟩
    simp only [perform, replayed]
    rfl
  | upsertProviderAccount provider funding currency display =>
    obtain ⟨h₁, h₂, h₃, h₄, row, found, same⟩ := held
    have replayed : db.upsertProviderAccount kernel now provider funding currency display =
        commit db (accountKey kernel provider funding currency) := by
      rw [accountKey] at found
      simp only [upsertProviderAccount, h₁, h₂, h₃, h₄, ok_bind, found]
      refine raiseIf_bind_of_not ?_
      simp only [same, ne_eq, not_true_eq_false, or_self, not_false_eq_true]
    simp only [perform, replayed]
    rfl
  | appendAccountingEntry accountId runId kind amount source sourceDigest =>
    obtain ⟨h₁, h₂, h₃, credit, debit, row, found, same⟩ := held
    have replayed : db.appendAccountingEntry kernel now accountId runId kind amount source
        sourceDigest = commit db (entryKey kernel accountId kind source sourceDigest) := by
      rw [entryKey] at found
      simp only [appendAccountingEntry, h₁, h₂, h₃, ok_bind, found]
      rw [raiseIf_bind_of_not credit, raiseIf_bind_of_not debit]
      refine raiseIf_bind_of_not ?_
      simp only [same, ne_eq, not_true_eq_false, or_self, not_false_eq_true]
    simp only [perform, replayed]
    rfl
  | appendReconciliation row =>
    obtain ⟨checked, found⟩ := held
    have replayed : db.appendReconciliation row = commit db false := by
      simp only [appendReconciliation, checked, ok_bind, found]
      exact raiseIf_bind_of_not (not_not.mpr rfl)
    simp only [perform, replayed]
    rfl
  | recordObservation => exact held.elim
  | recordTerminal => exact held.elim
  | markSoftWarning => exact held.elim

/-- What is held of a call is held of its content. -/
theorem holds_content (call : AccountingCall) :
    Holds kernel db call.content ↔ Holds kernel db call := by
  cases call <;> exact Iff.rfl

/-- Two dispatches that are held of one invocation are one dispatch. -/
theorem dispatch_eq_of_holds {runId : Uuid} {context context' : DispatchContext}
    {providerId providerId' : String} {model model' : Option String}
    {estimateUsd estimateUsd' : Option ℚ} {softWarning softWarning' : Bool}
    (held : Holds kernel db
      (.recordDispatch runId context providerId model estimateUsd softWarning))
    (second : Holds kernel db
      (.recordDispatch runId context' providerId' model' estimateUsd' softWarning')) :
    AccountingCall.recordDispatch runId context' providerId' model' estimateUsd' softWarning' =
      .recordDispatch runId context providerId model estimateUsd softWarning := by
  obtain ⟨named, _, _, _, row, stored, same⟩ := held
  obtain ⟨named', _, _, _, row', stored', same'⟩ := second
  have one : row' = row := Option.some.inj (stored'.symm.trans stored)
  rw [one, same] at same'
  simp only [dispatchValues, newInvocation, Prod.mk.injEq, DispatchColumns.mk.injEq,
    true_and] at same'
  obtain ⟨⟨origin, plane, rfl, rfl, rfl, policy, tier⟩, rfl⟩ := same'
  have contexts : context' = context := by
    cases context
    cases context'
    simp only at named named' origin plane policy tier
    rw [named, named', origin, plane, policy, tier]
  rw [contexts]

/-- Two plan costs that are held under one key are of one request. -/
theorem planCost_eq_of_holds {request request' : PlanCostRequest} {outboxId outboxId' : Uuid}
    (plan : request.planDigest = request'.planDigest)
    (key : request.idempotencyKey = request'.idempotencyKey)
    (held : Holds kernel db (.recordPlanCost request outboxId))
    (second : Holds kernel db (.recordPlanCost request' outboxId')) : request' = request := by
  obtain ⟨record, existing, checked, found, same⟩ := held
  obtain ⟨record', existing', checked', found', same'⟩ := second
  have told := planCostRecord_eq_ok checked
  have told' := planCostRecord_eq_ok checked'
  rw [told.1, told.2.1, plan, key] at found
  rw [told'.1, told'.2.1] at found'
  have one : existing' = existing := Option.some.inj (found'.symm.trans found)
  have equal : record' = record := by rw [← same', ← same, one]
  rw [equal] at told'
  obtain ⟨_, _, runId, costClass, amount, kind, basis, role, route⟩ := told
  obtain ⟨_, _, runId', costClass', amount', kind', basis', role', route'⟩ := told'
  have named : request'.costClass = request.costClass := costClass_injective costClass' costClass
  cases request
  cases request'
  simp only at *
  rw [PlanCostRequest.mk.injEq]
  exact ⟨plan.symm, runId'.symm.trans runId, named, amount'.symm.trans amount,
    kind'.symm.trans kind, basis'.symm.trans basis, role'.symm.trans role,
    route'.symm.trans route, key.symm⟩

/-- One key holds one content. -/
theorem content_of_holds {call other : AccountingCall} (key : call.SameKey other)
    (held : Holds kernel db call) (second : Holds kernel db other) :
    other.content = call.content := by
  cases call <;> cases other <;> first | exact key.elim | skip
  case recordDispatch.recordDispatch =>
    cases key
    exact dispatch_eq_of_holds held second
  case recordPlanCost.recordPlanCost =>
    simp only [AccountingCall.content]
    rw [planCost_eq_of_holds key.1 key.2 held second]
  case recordBillObservation.recordBillObservation =>
    obtain ⟨existing, found, same, _⟩ := held
    obtain ⟨existing', found', same', _⟩ := second
    have sources : _ = _ := key
    rw [sources] at found
    have one : existing' = existing := Option.some.inj (found'.symm.trans found)
    simp only [AccountingCall.content]
    rw [← same, ← same', one]
  case upsertProviderAccount.upsertProviderAccount =>
    obtain ⟨rfl, rfl, rfl⟩ := key
    obtain ⟨_, _, _, _, row, found, _, _, _, display⟩ := held
    obtain ⟨_, _, _, _, row', found', _, _, _, display'⟩ := second
    have one : row' = row := Option.some.inj (found'.symm.trans found)
    rw [← display, ← display', one]
  case appendAccountingEntry.appendAccountingEntry =>
    obtain ⟨rfl, rfl, rfl, rfl⟩ := key
    obtain ⟨_, _, _, _, _, row, found, runId, amount⟩ := held
    obtain ⟨_, _, _, _, _, row', found', runId', amount'⟩ := second
    have one : row' = row := Option.some.inj (found'.symm.trans found)
    rw [← runId, ← amount, ← runId', ← amount', one]
  case appendReconciliation.appendReconciliation =>
    have ids : _ = _ := key
    obtain ⟨_, found⟩ := held
    obtain ⟨_, found'⟩ := second
    rw [← ids] at found'
    have one : _ = _ := Option.some.inj (found'.symm.trans found)
    rw [one]

/-- A repeated call of another content would hold both. -/
theorem recognises_of_holds {call : AccountingCall} (evidence : call.WritesEvidence)
    (held : Holds kernel db call) : Recognises kernel db call := by
  intro now other key
  constructor
  · intro same
    have again : Holds kernel db other := by
      rw [← holds_content, same, holds_content]
      exact held
    exact perform_of_holds again now
  · intro differ
    cases done : db.perform kernel now other with
    | error raised => exact ⟨raised, rfl⟩
    | ok after =>
      exfalso
      have writes : other.WritesEvidence := by
        cases call <;> cases other <;> first | exact key.elim | exact trivial
      have spared : ¬other.Overwrites call := by
        cases call <;> cases other <;> simp [AccountingCall.Overwrites, AccountingCall.SameKey] at *
      have first := held.of_perform done spared
      have second := holds_of_perform writes done
      exact differ (content_of_holds key first second)

/-- A call that is recognised is held. -/
theorem holds_of_recognises {call : AccountingCall} (evidence : call.WritesEvidence)
    (recognised : Recognises kernel db call) : Holds kernel db call := by
  have key : call.SameKey call := by
    cases call <;> first | exact evidence.elim | simp [AccountingCall.SameKey]
  exact holds_of_perform evidence ((recognised 0 call key).1 rfl)

/-! ## Runs -/

/-- What is held stays held over an action that does not overwrite it. -/
theorem Holds.of_step {call : AccountingCall} {action : AccountingAction}
    (held : Holds kernel db call) (spared : ¬action.Overwrites call) :
    Holds kernel ((machine kernel).step db action) call := by
  show Holds kernel (step kernel db action) call
  unfold step
  by_cases interrupted : action.interrupted = true
  · rw [if_pos interrupted]
    exact held
  · rw [if_neg interrupted]
    cases done : db.perform kernel action.now action.call with
    | error raised => exact held
    | ok after =>
      have other : ¬action.call.Overwrites call := fun overwrites =>
        spared ⟨Bool.eq_false_iff.mpr interrupted, overwrites⟩
      exact held.of_perform done other

/-- An invocation is stored, and warned. -/
def Warned (db : AccountingDb) (runId : Uuid) : Prop :=
  ∃ row, db.invocation? runId = some row ∧ row.softWarning = true

/-- A warned invocation stays warned. -/
theorem Warned.of_step {runId : Uuid} (warned : Warned db runId) (action : AccountingAction) :
    Warned ((machine kernel).step db action) runId := by
  obtain ⟨row, stored, marked⟩ := warned
  obtain ⟨later, found, _, warning⟩ := dispatch_of_effect (effect_of_step kernel db action) stored
  refine ⟨later, found, ?_⟩
  rcases warning with same | ⟨_, marked⟩
  · rw [same, marked]
  · exact marked

/-- A mark on a stored invocation warns it. -/
theorem warned_of_step {runId : Uuid} {row : InvocationRow} {action : AccountingAction}
    (stored : db.invocation? runId = some row) (committed : action.interrupted = false)
    (marks : action.call = .markSoftWarning runId) :
    Warned ((machine kernel).step db action) runId := by
  show Warned (step kernel db action) runId
  simp only [step, committed, marks, perform, markSoftWarning, stored, require_some_bind]
  by_cases unmarked : row.softWarning = false
  · rw [if_pos unmarked]
    refine ⟨{ row with softWarning := true }, ?_, rfl⟩
    show (db.updateInvocation runId _ _).invocation? runId = _
    rw [invocation_updateInvocation, stored]
    exact if_pos rfl
  · rw [if_neg unmarked]
    exact ⟨row, stored, Bool.not_eq_false _ |>.mp unmarked⟩

/-- A dispatch without a warning is not held of a warned invocation. -/
theorem not_holds_of_warned {call marking : AccountingCall} {runId : Uuid}
    (marks : marking = .markSoftWarning runId) (overwrites : marking.Overwrites call)
    (warned : Warned db runId) : ¬Holds kernel db call := by
  subst marks
  intro held
  cases call <;> first | exact overwrites.elim | skip
  obtain ⟨rfl, same⟩ := overwrites
  cases same
  obtain ⟨_, _, _, _, row, stored, equal⟩ := held
  obtain ⟨row', stored', marked⟩ := warned
  have one : row' = row := Option.some.inj (stored'.symm.trans stored)
  have unmarked : row.softWarning = false := congrArg Prod.snd equal
  rw [one, unmarked] at marked
  cases marked

/-- A call that may be overwritten is a dispatch, and its mark is named. -/
theorem marking_of_overwrites {call marking : AccountingCall} (overwrites : marking.Overwrites call)
    (held : Holds kernel db call) :
    ∃ runId row, marking = .markSoftWarning runId ∧ db.invocation? runId = some row := by
  cases call <;> first | exact overwrites.elim | skip
  obtain ⟨_, _, _, _, row, stored, _⟩ := held
  exact ⟨_, row, overwrites.2, stored⟩

/-- Over a run, what is held stays held exactly when no action overwrites it. -/
theorem holds_run_iff {call : AccountingCall} (held : Holds kernel db call)
    (later : List AccountingAction) :
    Holds kernel ((machine kernel).run db later) call ↔
      ∀ action ∈ later, ¬action.Overwrites call := by
  induction later generalizing db with
  | nil => exact ⟨fun _ _ member => absurd member List.not_mem_nil, fun _ => held⟩
  | cons action rest ih =>
    rw [List.forall_mem_cons, Machine.run_cons]
    by_cases overwrites : action.Overwrites call
    · refine ⟨fun kept => ?_, fun spared => absurd overwrites spared.1⟩
      exfalso
      obtain ⟨runId, row, marks, stored⟩ := marking_of_overwrites overwrites.2 held
      have warned := @warned_of_step kernel _ _ _ _ stored overwrites.1 marks
      have keep : ∀ db action, Warned db runId → Warned ((machine kernel).step db action) runId :=
        fun _ action warned => warned.of_step action
      have lasting : Warned ((machine kernel).run ((machine kernel).step db action) rest) runId :=
        (machine kernel).run_invariant_all keep warned rest
      exact not_holds_of_warned marks overwrites.2 lasting kept
    · exact (ih (held.of_step overwrites)).trans ⟨fun spared => ⟨overwrites, spared⟩, And.right⟩

/-! ## Copies -/

/-- Each row has one copy, and the copy is the row. -/
def Copied {α : Type} (rows : List α) (copies : List CopyOutboxRow) (subject : α → Digest)
    (payload : α → Json) : Prop :=
  ∀ row ∈ rows, ∃ copy ∈ copies, copy.subject = subject row ∧ copy.payload = payload row ∧
    ∀ other ∈ copies, other.subject = subject row → other = copy

/-- A row that is added with its copy keeps the copies. -/
theorem Copied.concat {α : Type} {rows : List α} {copies : List CopyOutboxRow}
    {subject : α → Digest} {payload : α → Json} (copied : Copied rows copies subject payload)
    {row : α} {entry : CopyOutboxRow} (fresh : ∀ other ∈ rows, subject other ≠ subject row)
    (single : ∀ other ∈ copies, other.subject ≠ entry.subject)
    (named : entry.subject = subject row) (same : entry.payload = payload row) :
    Copied (rows ++ [row]) (copies ++ [entry]) subject payload := by
  intro held member
  rcases List.mem_append.mp member with old | new
  · obtain ⟨copy, stored, names, equal, alone⟩ := copied held old
    refine ⟨copy, List.mem_append_left _ stored, names, equal, ?_⟩
    intro other member said
    rcases List.mem_append.mp member with earlier | last
    · exact alone other earlier said
    · cases List.mem_singleton.mp last
      exact absurd (said.symm.trans named) (fresh held old)
  · cases List.mem_singleton.mp new
    refine ⟨entry, List.mem_append_right _ (List.mem_singleton_self entry), named, same, ?_⟩
    intro other member said
    rcases List.mem_append.mp member with earlier | last
    · exact absurd (said.trans named.symm) (single other earlier)
    · exact List.mem_singleton.mp last

/-- Each plan cost and each bill observation has one outbox row, which is the stored row. -/
structure EvidenceCopied (db : AccountingDb) : Prop where
  /-- The plan costs. -/
  planCosts : Copied db.planCosts.rows db.planCostOutbox.rows (·.costId)
    PlanCostRecord.outboxPayload
  /-- The bill observations. -/
  bills : Copied db.bills.rows db.billOutbox.rows (·.observationId)
    BillObservationRow.outboxPayload

/-- A new database has nothing to copy. -/
theorem evidenceCopied_initial : EvidenceCopied initial :=
  ⟨fun _ member => absurd member List.not_mem_nil, fun _ member => absurd member List.not_mem_nil⟩

/-- The copies are kept by a call that leaves the copied tables alone. -/
theorem EvidenceCopied.of_same (copied : EvidenceCopied db)
    (planCosts : after.planCosts = db.planCosts)
    (planCostOutbox : after.planCostOutbox = db.planCostOutbox)
    (bills : after.bills = db.bills) (billOutbox : after.billOutbox = db.billOutbox) :
    EvidenceCopied after := by
  constructor
  · rw [planCosts, planCostOutbox]
    exact copied.planCosts
  · rw [bills, billOutbox]
    exact copied.bills

/-- A copy is entered under a new subject. -/
theorem insertCopy_eq_ok {table next : Table (fun row : CopyOutboxRow => row.outboxId)}
    {entry : CopyOutboxRow} (done : insertCopy table entry = .ok next) :
    next.rows = table.rows ++ [entry] ∧ ∀ other ∈ table.rows, other.subject ≠ entry.subject := by
  simp only [insertCopy, bind_eq_ok, raiseIf_eq_ok, exists_const, require_eq_ok] at done
  exact ⟨Table.rows_of_insert? done.2, fun other stored same => done.1 ⟨other, stored, same⟩⟩

/-- A plan cost is entered with its copy. -/
theorem copied_of_recordPlanCost {request : PlanCostRequest} {outboxId : Uuid}
    {result : Committed AccountingDb PlanCostRecord} (copied : EvidenceCopied db)
    (done : db.recordPlanCost kernel now request outboxId = .ok result) :
    EvidenceCopied result.1 := by
  simp only [recordPlanCost, bind_eq_ok] at done
  obtain ⟨record, _, done⟩ := done
  split at done
  · simp only [bind_eq_ok, raiseIf_eq_ok, exists_const, commit_eq_ok] at done
    rw [done.2]
    exact copied
  · simp only [bind_eq_ok, onIntegrity_eq_ok, commit_eq_ok, insertPlanCost, raiseIf_eq_ok,
      exists_const, require_eq_ok, pure_eq_ok] at done
    obtain ⟨written, ⟨_, planCosts, inserted, copies, entered, rfl⟩, rfl⟩ := done
    obtain ⟨rows, single⟩ := insertCopy_eq_ok entered
    refine ⟨?_, copied.bills⟩
    show Copied planCosts.rows copies.rows _ _
    rw [Table.rows_of_insert? inserted, rows]
    exact copied.planCosts.concat (Table.fresh_of_insert? inserted) single rfl rfl

/-- A bill observation is entered with its copy. -/
theorem copied_of_recordBillObservation {bill : BillObservation} {outboxId : Uuid}
    {result : Committed AccountingDb Bool} (copied : EvidenceCopied db)
    (done : db.recordBillObservation kernel bill outboxId = .ok result) :
    EvidenceCopied result.1 := by
  unfold recordBillObservation at done
  split at done
  · simp only [bind_eq_ok, raiseIf_eq_ok, exists_const, commit_eq_ok] at done
    rw [done.2]
    exact copied
  · simp only [bind_eq_ok, onIntegrity_eq_ok, commit_eq_ok, insertBill, raiseIf_eq_ok,
      exists_const, require_eq_ok, pure_eq_ok] at done
    obtain ⟨written, ⟨_, bills, inserted, copies, entered, rfl⟩, rfl⟩ := done
    obtain ⟨rows, single⟩ := insertCopy_eq_ok entered
    refine ⟨copied.planCosts, ?_⟩
    show Copied bills.rows copies.rows _ _
    rw [Table.rows_of_insert? inserted, rows]
    exact copied.bills.concat (Table.fresh_of_insert? inserted) single rfl rfl

/-- Every call that commits keeps the copies. -/
theorem EvidenceCopied.of_perform {call : AccountingCall} (copied : EvidenceCopied db)
    (done : db.perform kernel now call = .ok after) : EvidenceCopied after := by
  cases call <;> simp only [perform, except_map_eq_ok] at done <;>
    obtain ⟨result, done, rfl⟩ := done
  case recordDispatch =>
    obtain ⟨_, ⟨same, _⟩ | ⟨_, _, _, written⟩⟩ := recordDispatch_eq_ok done
    · rw [same]
      exact copied
    · rw [written]
      exact copied.of_same rfl rfl rfl rfl
  case recordObservation =>
    obtain ⟨_, _, _, _, ⟨_, _, same⟩ | ⟨_, written⟩⟩ := recordObservation_eq_ok done
    · rw [same]
      exact copied
    · rw [written]
      exact copied.of_same rfl rfl rfl rfl
  case recordTerminal =>
    obtain ⟨_, _, _, _, ⟨_, _, same⟩ | ⟨_, _, _, _, written⟩⟩ := recordTerminal_eq_ok done
    · rw [same]
      exact copied
    · rw [written]
      exact copied.of_same rfl rfl rfl rfl
  case markSoftWarning =>
    simp only [markSoftWarning, bind_eq_ok, require_eq_ok] at done
    obtain ⟨row, _, done⟩ := done
    split at done <;> rw [commit_eq_ok] at done <;> rw [done]
    · exact copied.of_same rfl rfl rfl rfl
    · exact copied
  case recordPlanCost => exact copied_of_recordPlanCost copied done
  case recordBillObservation => exact copied_of_recordBillObservation copied done
  case upsertProviderAccount =>
    simp only [upsertProviderAccount, bind_eq_ok] at done
    obtain ⟨_, _, _, _, _, _, _, _, done⟩ := done
    split at done
    · simp only [bind_eq_ok, raiseIf_eq_ok, exists_const, commit_eq_ok] at done
      rw [done.2]
      exact copied
    · simp only [bind_eq_ok, raiseIf_eq_ok, exists_const, require_eq_ok, commit_eq_ok] at done
      obtain ⟨_, accounts, _, rfl⟩ := done
      exact copied.of_same rfl rfl rfl rfl
  case appendAccountingEntry =>
    simp only [appendAccountingEntry, bind_eq_ok, raiseIf_eq_ok, exists_const] at done
    obtain ⟨_, _, _, _, _, _, _, _, done⟩ := done
    split at done
    · simp only [bind_eq_ok, raiseIf_eq_ok, exists_const, commit_eq_ok] at done
      rw [done.2]
      exact copied
    · simp only [bind_eq_ok, onIntegrity_eq_ok, commit_eq_ok, insertEntry, raiseIf_eq_ok,
        exists_const, require_eq_ok, pure_eq_ok] at done
      obtain ⟨written, ⟨_, _, entries, _, rfl⟩, rfl⟩ := done
      exact copied.of_same rfl rfl rfl rfl
  case appendReconciliation =>
    simp only [appendReconciliation, bind_eq_ok] at done
    obtain ⟨row, _, done⟩ := done
    split at done
    · simp only [bind_eq_ok, raiseIf_eq_ok, exists_const, commit_eq_ok] at done
      rw [done.2]
      exact copied
    · simp only [bind_eq_ok, onIntegrity_eq_ok, commit_eq_ok, insertReconciliation, raiseIf_eq_ok,
        exists_const, require_eq_ok, pure_eq_ok] at done
      obtain ⟨written, ⟨_, reconciliations, _, rfl⟩, rfl⟩ := done
      exact copied.of_same rfl rfl rfl rfl

/-- Every action keeps the copies. -/
theorem EvidenceCopied.of_step (kernel : AccountingKernel) (copied : EvidenceCopied db)
    (action : AccountingAction) : EvidenceCopied ((machine kernel).step db action) := by
  show EvidenceCopied (step kernel db action)
  unfold step
  by_cases interrupted : action.interrupted = true
  · rw [if_pos interrupted]
    exact copied
  · rw [if_neg interrupted]
    cases done : db.perform kernel action.now action.call with
    | error raised => exact copied
    | ok after => exact copied.of_perform done

/-! ## The result -/

/-- In every state the copies of plan costs and bills are their rows. A call that committed evidence
is recognised in a later state exactly when no action between them marked the invocation it
dispatched without a warning. -/
theorem evidence_replays (kernel : AccountingKernel) (actions : List AccountingAction) :
    EvidenceCopied ((machine kernel).run initial actions) ∧
      ∀ first action later after, actions = first ++ action :: later →
        action.interrupted = false → action.call.WritesEvidence →
        ((machine kernel).run initial first).perform kernel action.now action.call = .ok after →
        (Recognises kernel ((machine kernel).run initial actions) action.call ↔
          ∀ mark ∈ later, ¬mark.Overwrites action.call) := by
  constructor
  · exact (machine kernel).run_invariant_all (fun _ action copied => copied.of_step kernel action)
      evidenceCopied_initial actions
  · rintro first action later after rfl committed evidence done
    have stepped : (machine kernel).step ((machine kernel).run initial first) action = after := by
      show step kernel _ action = after
      simp only [step, committed, done, Bool.false_eq_true, if_false]
    have held : Holds kernel after action.call := holds_of_perform evidence done
    rw [Machine.run_append, Machine.run_cons, stepped, ← holds_run_iff held later]
    exact ⟨holds_of_recognises evidence, recognises_of_holds evidence⟩

/-- What a plan of the sample run cost. -/
def sampleCost : AccountingCall :=
  .recordPlanCost ⟨9, some 1, "probe_cost", 2, "actual", 4, none, none, "probe-1"⟩ 11

/-- A dispatch, the cost of its plan, and a warning on it. -/
def warnedDispatch : List AccountingAction :=
  [⟨1, false, sampleDispatch⟩, ⟨2, false, sampleCost⟩, ⟨3, false, .markSoftWarning 1⟩]

/-- The plan cost of the sample run is recognised after the warning. -/
theorem sampleCost_recognised :
    Recognises sampleAccounting ((machine sampleAccounting).run initial warnedDispatch)
      sampleCost := by
  have committed : (((machine sampleAccounting).run initial [⟨1, false, sampleDispatch⟩]).perform
      sampleAccounting 2 sampleCost).isOk = true := by decide +kernel
  cases done : ((machine sampleAccounting).run initial [⟨1, false, sampleDispatch⟩]).perform
      sampleAccounting 2 sampleCost with
  | error raised =>
    rw [done] at committed
    cases committed
  | ok after =>
    refine ((evidence_replays sampleAccounting warnedDispatch).2 [⟨1, false, sampleDispatch⟩]
      ⟨2, false, sampleCost⟩ [⟨3, false, .markSoftWarning 1⟩] after rfl rfl trivial done).mpr ?_
    intro mark _ overwrites
    exact overwrites.2

/-- A dispatch without a warning is committed, and refused again once its invocation is marked. -/
theorem dispatch_not_recognised_of_warning :
    (initial.perform sampleAccounting 1 sampleDispatch).isOk = true ∧
      ¬Recognises sampleAccounting ((machine sampleAccounting).run initial warnedDispatch)
        sampleDispatch := by
  constructor
  · decide +kernel
  · intro recognised
    have again := (recognised 4 sampleDispatch rfl).1 rfl
    have refused : (((machine sampleAccounting).run initial warnedDispatch).perform
        sampleAccounting 4 sampleDispatch).isOk = false := by decide +kernel
    rw [again] at refused
    cases refused

end AccountingDb
end Macr
