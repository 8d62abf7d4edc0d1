import Macr.Canonical
import Macr.Errors

/-!
# Accounting contracts

What a provider reports of one invocation, and the rows of the accounting database. Amounts are
exact rationals: every stored amount is a finite number, and no operation rounds one. Texts are
given stripped. An observation carries the checks of its constructor as fields.
-/

namespace Macr

/-- The billing states. -/
inductive BillingState where
  | dispatched
  | providerReported
  | estimated
  | zeroLocal
  | unknownAfterDispatch
deriving DecidableEq, Repr

/-- The stored text of a billing state. -/
def BillingState.value : BillingState → String
  | .dispatched => "dispatched"
  | .providerReported => "provider_reported"
  | .estimated => "estimated"
  | .zeroLocal => "zero_local"
  | .unknownAfterDispatch => "unknown_after_dispatch"

/-- `_BILLING_STATES - {"dispatched"}`, by text. -/
def BillingState.ofTerminalText : String → Option BillingState
  | "provider_reported" => some .providerReported
  | "estimated" => some .estimated
  | "zero_local" => some .zeroLocal
  | "unknown_after_dispatch" => some .unknownAfterDispatch
  | _ => none

/-- The amount of the invocation is known. -/
def BillingState.known : BillingState → Bool
  | .providerReported | .estimated | .zeroLocal => true
  | .dispatched | .unknownAfterDispatch => false

/-- `_CANDIDATE_STATES`. -/
inductive CandidateStatus where
  | candidateSuccess
  | candidateFailure
deriving DecidableEq, Repr

/-- The stored text of a candidate status. -/
def CandidateStatus.value : CandidateStatus → String
  | .candidateSuccess => "candidate_success"
  | .candidateFailure => "candidate_failure"

/-- `_CANDIDATE_STATES`, by text. -/
def CandidateStatus.ofText : String → Option CandidateStatus
  | "candidate_success" => some .candidateSuccess
  | "candidate_failure" => some .candidateFailure
  | _ => none

/-- `CostClass`. -/
inductive CostClass where
  | discoveryCost
  | probeCost
  | productionExecutionCost
  | verificationCost
  | integrationCost
  | humanCorrectionObservation
deriving DecidableEq, Repr

/-- The stored text of a cost class. -/
def CostClass.value : CostClass → String
  | .discoveryCost => "discovery_cost"
  | .probeCost => "probe_cost"
  | .productionExecutionCost => "production_execution_cost"
  | .verificationCost => "verification_cost"
  | .integrationCost => "integration_cost"
  | .humanCorrectionObservation => "human_correction_observation"

/-- `CostClass(...)`. -/
def CostClass.ofText : String → Option CostClass
  | "discovery_cost" => some .discoveryCost
  | "probe_cost" => some .probeCost
  | "production_execution_cost" => some .productionExecutionCost
  | "verification_cost" => some .verificationCost
  | "integration_cost" => some .integrationCost
  | "human_correction_observation" => some .humanCorrectionObservation
  | _ => none

/-- `InteractionPlane`. -/
inductive InteractionPlane where
  | direct
  | delegation
deriving DecidableEq, Repr

/-- The stored text of a plane. -/
def InteractionPlane.value : InteractionPlane → String
  | .direct => "direct"
  | .delegation => "delegation"

/-- `DispatchOrigin`. -/
structure DispatchOrigin where
  /-- The host. -/
  host : String
  /-- What the native id is. -/
  identifierKind : String
  /-- The id within the host. -/
  nativeId : String
deriving DecidableEq

/-- The part of a `DispatchContext` that accounting reads. -/
structure DispatchContext where
  /-- The run. -/
  runId : Uuid
  /-- Where the dispatch comes from. -/
  origin : DispatchOrigin
  /-- Its plane. -/
  plane : InteractionPlane
  /-- The policy in force. -/
  policySnapshotSha256 : Digest
  /-- The tier binding, if any. -/
  providerTierBindingDigest : Option Digest
deriving DecidableEq

/-- The characters of `[A-Za-z0-9][A-Za-z0-9._:-]*`. -/
def isSafeIdentifier (text : String) : Bool :=
  match text.toList with
  | [] => false
  | first :: rest => first.isAlphanum &&
      rest.all (fun c => c.isAlphanum || c ∈ ['.', '_', ':', '-'])

/-- `_SAFE_TELEMETRY_IDENTIFIER`. -/
def isTelemetryIdentifier (text : String) : Bool := isSafeIdentifier text && text.length ≤ 128

/-- `ProviderUsage`. -/
structure ProviderUsage where
  /-- Tokens read. -/
  inputTokens : Option Nat
  /-- Tokens written. -/
  outputTokens : Option Nat
  /-- Tokens reasoned with. -/
  reasoningTokens : Option Nat
  /-- Tokens read from a cache. -/
  cachedTokens : Option Nat
deriving DecidableEq

/-- The part of a `RawProviderObservation` that accounting reads. -/
structure RawProviderObservation where
  /-- The provider. -/
  providerId : String
  /-- The model it names. -/
  model : Option String
  /-- Why it finished. -/
  finishReason : Option String
  /-- The tokens it counted. -/
  usage : ProviderUsage
  /-- The amount it charged, if it says so. -/
  currencyCostUsd : Option ℚ
  /-- Where the amount comes from. -/
  costKind : Option String
  /-- The price list. -/
  pricingBasisVersion : Option String
  /-- How long it took. -/
  durationMs : Option Nat
  /-- Whether the network was used. -/
  networkAttempted : Option Bool
  /-- Whether an answer came back. -/
  responseReceived : Option Bool
  /-- The HTTP status. -/
  providerHttpStatus : Option Nat
  /-- The provider's error code. -/
  providerErrorCode : Option String
  /-- How far the transport got. -/
  transportStage : Option String
  /-- An amount is not negative. -/
  cost_nonneg : ∀ cost ∈ currencyCostUsd, 0 ≤ cost
  /-- A status is an HTTP status. -/
  httpStatus_bounded : ∀ status ∈ providerHttpStatus, 100 ≤ status ∧ status ≤ 599
  /-- An error code is a bounded identifier. -/
  errorCode_safe : ∀ code ∈ providerErrorCode, isTelemetryIdentifier code = true
  /-- A stage is a bounded identifier. -/
  transportStage_safe : ∀ stage ∈ transportStage, isTelemetryIdentifier stage = true
  /-- An answer comes over the network. -/
  response_attempted : responseReceived = some true → networkAttempted = some true
  /-- Telemetry of an answer needs an answer. -/
  telemetry_response : providerHttpStatus.isSome ∨ providerErrorCode.isSome →
    responseReceived = some true

/-! ## Argument checks -/

/-- `_non_empty`. -/
def nonEmpty (name text : String) (maximum : Nat) : Except MacrError String := do
  raiseIf (text = "" ∨ maximum < text.length)
    (.valueError s!"{name} must be a bounded non-empty string")
  pure text

/-- `_safe_id`. -/
def safeId (name text : String) (maximum : Nat) : Except MacrError String := do
  let normalized ← nonEmpty name text maximum
  raiseIf (isSafeIdentifier normalized = false) (.valueError s!"{name} must be a safe identifier")
  pure normalized

/-- `_money`; a stored number is finite. -/
def money (name : String) (value : ℚ) (signed : Bool) : Except MacrError ℚ := do
  raiseIf (signed = false ∧ value < 0) (.valueError s!"{name} must be a finite number")
  pure value

/-- `_optional_money`. -/
def optionalMoney (name : String) : Option ℚ → Except MacrError (Option ℚ)
  | none => .ok none
  | some value => (money name value false).map some

/-- A check of a value that may be missing. -/
def checkOptional {α β : Type} (check : α → Except MacrError β) :
    Option α → Except MacrError (Option β)
  | none => .ok none
  | some value => (check value).map some

/-- `str.lower` of one character, as far as the result is ASCII; the Kelvin sign is the one letter
outside ASCII that becomes one inside it. -/
def lowered (c : Char) : Char := if c.toNat = 0x212A then 'k' else c.toLower

/-- `_safe_finish_reason`. -/
def safeFinishReason : Option String → Option String
  | none => none
  | some value =>
    let normalized := value.toList.map lowered
    if 1 ≤ normalized.length ∧ normalized.length ≤ 64 ∧
        normalized.all (fun c => c.isLower || c.isDigit || c ∈ ['.', '_', '-']) then
      some (String.ofList normalized)
    else some "other"

/-! ## Rows -/

/-- The columns of an invocation that its dispatch fixes. -/
structure DispatchColumns where
  /-- Primary key. -/
  runId : Uuid
  /-- Where it comes from. -/
  origin : DispatchOrigin
  /-- Its plane. -/
  interactionPlane : InteractionPlane
  /-- Its provider. -/
  providerId : String
  /-- The model asked for. -/
  model : Option String
  /-- When it was dispatched. -/
  dispatchedAt : Timestamp
  /-- What it was expected to cost. -/
  estimateUsd : Option ℚ
  /-- The policy in force. -/
  policySnapshotSha256 : Digest
  /-- The tier binding, if any. -/
  providerTierBindingDigest : Option Digest
deriving DecidableEq

/-- The columns of an invocation that an observation writes. -/
structure ObservedColumns where
  /-- The model that answered. -/
  returnedModel : Option String
  /-- The tokens counted. -/
  usage : ProviderUsage
  /-- How long it took. -/
  durationMs : Option Nat
  /-- The amount charged. -/
  currencyCostUsd : Option ℚ
  /-- Where the amount comes from. -/
  costKind : Option String
  /-- The price list. -/
  pricingBasisVersion : Option String
  /-- Why it finished. -/
  finishReason : Option String
  /-- What is known of the bill; the terminal record writes it again. -/
  billingState : BillingState
  /-- Whether the network was used. -/
  networkAttempted : Option Bool
  /-- Whether an answer came back. -/
  responseReceived : Option Bool
  /-- The HTTP status. -/
  providerHttpStatus : Option Nat
  /-- The provider's error code. -/
  providerErrorCode : Option String
  /-- How far the transport got. -/
  transportStage : Option String
deriving DecidableEq

/-- The observed columns of a new dispatch. -/
def ObservedColumns.dispatched : ObservedColumns where
  returnedModel := none
  usage := ⟨none, none, none, none⟩
  durationMs := none
  currencyCostUsd := none
  costKind := none
  pricingBasisVersion := none
  finishReason := none
  billingState := .dispatched
  networkAttempted := none
  responseReceived := none
  providerHttpStatus := none
  providerErrorCode := none
  transportStage := none

/-- A row of `invocations`. -/
structure InvocationRow extends DispatchColumns, ObservedColumns where
  /-- When its terminal state was recorded. -/
  terminalAt : Option Timestamp
  /-- What became of the candidate. -/
  candidateStatus : Option CandidateStatus
  /-- Whether it exceeded the soft budget. -/
  softWarning : Bool
  /-- The code of a failure. -/
  failureCode : Option String
  /-- Where it failed. -/
  failureStage : Option String
deriving DecidableEq

/-- `_observation_billing_state`. -/
def RawProviderObservation.billingState (observation : RawProviderObservation) : BillingState :=
  if observation.currencyCostUsd = none then .unknownAfterDispatch
  else if observation.costKind = some "provider_reported" ∨ observation.costKind = some "actual" then
    .providerReported
  else if observation.costKind = some "zero_local" then .zeroLocal
  else .estimated

/-- `observed_values`. -/
def RawProviderObservation.observedValues (observation : RawProviderObservation) :
    ObservedColumns where
  returnedModel := observation.model
  usage := observation.usage
  durationMs := observation.durationMs
  currencyCostUsd := observation.currencyCostUsd
  costKind := observation.costKind
  pricingBasisVersion := observation.pricingBasisVersion
  finishReason := safeFinishReason observation.finishReason
  billingState := observation.billingState
  networkAttempted := observation.networkAttempted
  responseReceived := observation.responseReceived
  providerHttpStatus := observation.providerHttpStatus
  providerErrorCode := observation.providerErrorCode
  transportStage := observation.transportStage

/-- `_outbox_payload`. -/
def InvocationRow.outboxPayload (row : InvocationRow) : Json :=
  .obj [("run_id", .hex row.runId),
    ("origin_host", .str row.origin.host),
    ("interaction_plane", .str row.interactionPlane.value),
    ("provider_id", .str row.providerId),
    ("model", .optStr row.model),
    ("returned_model", .optStr row.returnedModel),
    ("dispatched_at", .time row.dispatchedAt),
    ("terminal_at", .optTime row.terminalAt),
    ("input_tokens", .optNat row.usage.inputTokens),
    ("output_tokens", .optNat row.usage.outputTokens),
    ("reasoning_tokens", .optNat row.usage.reasoningTokens),
    ("cached_tokens", .optNat row.usage.cachedTokens),
    ("duration_ms", .optNat row.durationMs),
    ("estimate_usd", .optNum row.estimateUsd),
    ("currency_cost_usd", .optNum row.currencyCostUsd),
    ("cost_kind", .optStr row.costKind),
    ("pricing_basis_version", .optStr row.pricingBasisVersion),
    ("finish_reason", .optStr row.finishReason),
    ("billing_state", .str row.billingState.value),
    ("candidate_status", .optStr (row.candidateStatus.map CandidateStatus.value)),
    ("soft_warning", .int (if row.softWarning then 1 else 0)),
    ("policy_snapshot_sha256", .hex row.policySnapshotSha256),
    ("provider_tier_binding_digest", .optHex row.providerTierBindingDigest),
    ("failure_code", .optStr row.failureCode),
    ("failure_stage", .optStr row.failureStage),
    ("network_attempted", .optBool row.networkAttempted),
    ("response_received", .optBool row.responseReceived),
    ("provider_http_status", .optNat row.providerHttpStatus),
    ("provider_error_code", .optStr row.providerErrorCode),
    ("transport_stage", .optStr row.transportStage)]

/-- A row of `accounting_outbox`. -/
structure AccountingOutboxRow where
  /-- Primary key. -/
  outboxId : Uuid
  /-- The invocation. -/
  runId : Uuid
  /-- The version of the payload. -/
  schemaVersion : Nat
  /-- The copy of the invocation. -/
  payload : Json
  /-- Its digest. -/
  payloadSha256 : Digest
  /-- Whether it is to be sent. -/
  state : String
  /-- When it was written. -/
  createdAt : Timestamp
  /-- When it was sent. -/
  syncedAt : Option Timestamp
deriving DecidableEq

/-- `PlanCostRecord`, a row of `plan_costs`. -/
structure PlanCostRecord where
  /-- Primary key. -/
  costId : Digest
  /-- The plan. -/
  planDigest : Digest
  /-- The invocation, if the cost has one. -/
  runId : Option Uuid
  /-- The role. -/
  roleDigest : Option Digest
  /-- The route. -/
  routeId : Option Digest
  /-- What the cost was for. -/
  costClass : CostClass
  /-- The amount. -/
  amountUsd : ℚ
  /-- Where the amount comes from. -/
  costKind : String
  /-- The price list. -/
  pricingBasisDigest : Digest
  /-- The caller's key. -/
  idempotencyKey : String
  /-- When it was recorded. -/
  observedAt : Timestamp
deriving DecidableEq

/-- The fields that identify a plan cost. -/
def PlanCostRecord.identity (record : PlanCostRecord) : List (String × Json) :=
  [("plan_digest", .hex record.planDigest),
    ("run_id", .optHex record.runId),
    ("role_digest", .optHex record.roleDigest),
    ("route_id", .optHex record.routeId),
    ("cost_class", .str record.costClass.value),
    ("amount_usd", .num record.amountUsd),
    ("cost_kind", .str record.costKind),
    ("pricing_basis_digest", .hex record.pricingBasisDigest),
    ("idempotency_key", .str record.idempotencyKey)]

/-- A row of an outbox that copies another table's row: `plan_cost_outbox` by cost,
`bill_observation_outbox` by observation. -/
structure CopyOutboxRow where
  /-- Primary key. -/
  outboxId : Uuid
  /-- The copied row. -/
  subject : Digest
  /-- The copy. -/
  payload : Json
  /-- Its digest. -/
  payloadSha256 : Digest
  /-- Whether it is to be sent. -/
  state : String
  /-- When it was written. -/
  createdAt : Timestamp
deriving DecidableEq

/-- A `BillObservation` but for its id, which is a digest of the rest. -/
structure BillObservation where
  /-- The provider. -/
  providerId : String
  /-- The account. -/
  providerAccountId : Uuid
  /-- What paid. -/
  fundingSourceId : Digest
  /-- The item of the invoice. -/
  invoiceItemId : Digest
  /-- The plan, if known. -/
  planDigest : Option Digest
  /-- The invocation, if known. -/
  runId : Option Uuid
  /-- The amount. -/
  amount : ℚ
  /-- Its currency. -/
  currency : String
  /-- The tax. -/
  tax : Option ℚ
  /-- The credit. -/
  credit : Option ℚ
  /-- Whether it was paid. -/
  paymentStatus : String
  /-- The evidence. -/
  sourceDigest : Digest
  /-- The digest of its metadata. -/
  metadataDigest : Digest
  /-- When it was seen. -/
  observedAt : Timestamp
deriving DecidableEq

/-- The fields of a bill observation, in the order of its document. -/
def BillObservation.canonical (bill : BillObservation) : List (String × Json) :=
  [("provider_id", .str bill.providerId),
    ("provider_account_id", .hex bill.providerAccountId),
    ("funding_source_id", .hex bill.fundingSourceId),
    ("invoice_item_id", .hex bill.invoiceItemId),
    ("plan_digest", .optHex bill.planDigest),
    ("run_id", .optHex bill.runId),
    ("amount", .num bill.amount),
    ("currency", .str bill.currency),
    ("tax", .optNum bill.tax),
    ("credit", .optNum bill.credit),
    ("payment_status", .str bill.paymentStatus),
    ("source_digest", .hex bill.sourceDigest),
    ("metadata_digest", .hex bill.metadataDigest),
    ("observed_at", .time bill.observedAt)]

/-- `observation_id`. -/
def BillObservation.observationId (sha : Sha256) (bill : BillObservation) : Digest :=
  sha.sha256Id "bill_observation_v1" (.obj bill.canonical)

/-- `BillObservation.to_public_dict`. -/
def BillObservation.toPublicDict (sha : Sha256) (bill : BillObservation) : Json :=
  .obj (("observation_id", .hex (bill.observationId sha)) :: bill.canonical)

/-- A row of `bill_observations`. -/
structure BillObservationRow extends BillObservation where
  /-- Primary key. -/
  observationId : Digest
deriving DecidableEq

/-- A row of `provider_accounts`. -/
structure ProviderAccountRow where
  /-- Primary key. -/
  accountId : Uuid
  /-- The provider. -/
  providerId : String
  /-- How it is funded. -/
  fundingKind : String
  /-- Its currency. -/
  currency : String
  /-- What it is called. -/
  displayName : String
  /-- When it was opened. -/
  openedAt : Timestamp
deriving DecidableEq

/-- A row of `accounting_entries`. -/
structure AccountingEntryRow where
  /-- Primary key. -/
  entryId : Uuid
  /-- The account. -/
  accountId : Uuid
  /-- The invocation, if the entry has one. -/
  runId : Option Uuid
  /-- What the entry is. -/
  entryKind : String
  /-- The amount. -/
  amount : ℚ
  /-- Where it comes from. -/
  sourceKind : String
  /-- The evidence. -/
  sourceDigest : Digest
  /-- When it was recorded. -/
  observedAt : Timestamp
deriving DecidableEq

/-- A row of `billing_reconciliations`. -/
structure BillingReconciliationRow where
  /-- Primary key. -/
  reconciliationId : Uuid
  /-- The invocation. -/
  runId : Uuid
  /-- Who says so. -/
  authoritySource : String
  /-- The amount. -/
  amount : ℚ
  /-- Its currency. -/
  currency : String
  /-- The tax. -/
  tax : Option ℚ
  /-- The exchange rate. -/
  exchangeRate : Option ℚ
  /-- The credit. -/
  credit : Option ℚ
  /-- The refund. -/
  refund : Option ℚ
  /-- Whether it was paid. -/
  paymentStatus : String
  /-- The evidence. -/
  payloadSha256 : Digest
  /-- When it was seen. -/
  observedAt : Timestamp
deriving DecidableEq

end Macr
