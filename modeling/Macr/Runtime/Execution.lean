import Macr.Accounting.Contracts
import Macr.ProviderAdmission.Contracts
import Macr.Runtime.EventPayload
import Macr.Runtime.Vault

/-!
# Execution contracts

What a dispatch is for, what a provider reports and what comes of it: the task and context as far
as the runtime reads them, the observation with its answer, the result a provider returns and the
validation of its answer. Constructors keep the checks of the source as fields, or raise them.
-/

namespace Macr

open Lib

/-! ## Tasks -/

/-- `ReturnFormat`. -/
inductive ReturnFormat where
  | freeText
  | exactText
  | plainSource
  | jsonObject
deriving DecidableEq, Repr

/-- The part of a `ReturnContract` that the validation reads. -/
structure ReturnContract where
  /-- The format. -/
  format : ReturnFormat
  /-- The exact text asked for. -/
  exactText : Option String
  /-- The language of a plain source. -/
  language : Option String
deriving DecidableEq

/-- The characters of `[A-Za-z0-9._-]`. -/
def isNameCharacter (c : Char) : Bool := c.isAlphanum || c ∈ ['.', '_', '-']

/-- `_TASK_ID`. -/
def isTaskId (text : String) : Bool :=
  match text.toList with
  | [] => false
  | first :: rest => first.isAlphanum && rest.all isNameCharacter && rest.length ≤ 127

/-- `_FAILURE_ID`. -/
def isFailureId (text : String) : Bool :=
  match text.toList with
  | [] => false
  | first :: rest => first.isAlpha && rest.all isNameCharacter && rest.length ≤ 127

/-- The part of a `TaskContract` that the runtime reads. -/
structure RuntimeTask where
  /-- The task's identifier. -/
  taskId : String
  /-- Its type. -/
  taskType : String
  /-- `task_contract_digest`. -/
  digest : Digest
  /-- The digest of its repository. -/
  repoDigest : Digest
  /-- The write scope of its workspace. -/
  writeScope : List String
  /-- Its latency bound in seconds, rounded up. -/
  maxLatencyS : Int
  /-- The approval of its delegation, if any. -/
  delegationApprovalSha256 : Option Digest
  /-- What it has to return. -/
  returnContract : ReturnContract
  /-- The identifier is one. -/
  taskId_valid : isTaskId taskId = true
deriving DecidableEq

/-! ## Contexts -/

/-- `DispatchContext`; what accounting reads of it comes first. -/
structure RunContext extends DispatchContext where
  /-- The authority it runs under. -/
  authorization : AuthorizationReference
  /-- The batch, if any. -/
  batchId : Option String := none
  /-- The member, if any. -/
  memberDigest : Option Digest := none
  /-- The plan, if any. -/
  planDigest : Option Digest := none
  /-- The plan's revision. -/
  planRevision : Option Nat := none
  /-- The role slot of the plan. -/
  roleSlotId : Option String := none
  /-- The route of the plan. -/
  routeId : Option Digest := none
  /-- The token policy of the model. -/
  modelTokenPolicyDigest : Option Digest := none
  /-- The project, where admission applies. -/
  projectBindingDigest : Option Digest := none
  /-- The admission lane. -/
  admissionLane : Option AdmissionLane := none
  /-- The admission policy. -/
  providerAdmissionPolicyDigest : Option Digest := none

/-! ## Observations -/

/-- `ProviderState`. -/
inductive ProviderState where
  | completed
  | incomplete
  | malformed
deriving DecidableEq, Repr

/-- The stored text of a provider state. -/
def ProviderState.value : ProviderState → String
  | .completed => "completed"
  | .incomplete => "incomplete"
  | .malformed => "malformed"

/-- `RawProviderObservation`; what accounting reads of it comes first. -/
structure ProviderObservation extends RawProviderObservation where
  /-- The provider's name for the answer. -/
  responseId : Option String
  /-- The answer. -/
  answerBytes : Option Bytes
  /-- How far the provider got. -/
  providerState : ProviderState
  /-- Its texts are not blank. -/
  texts_nonblank : ∀ text ∈ model.toList ++ responseId.toList ++ finishReason.toList ++
    costKind.toList ++ pricingBasisVersion.toList, strip text ≠ ""
  /-- The length of an answer is a `Py_ssize_t`. -/
  answer_bounded : ∀ answer ∈ answerBytes, answer.length < 2 ^ 63

/-- The transport part of an observation. -/
structure TransportObservation where
  /-- Whether the network was used. -/
  networkAttempted : Option Bool := none
  /-- Whether an answer came back. -/
  responseReceived : Option Bool := none
  /-- The HTTP status. -/
  providerHttpStatus : Option Nat := none
  /-- The provider's error code. -/
  providerErrorCode : Option String := none
  /-- How far the transport got. -/
  transportStage : Option String := none
deriving DecidableEq

namespace TransportObservation

/-- The checks an observation makes of its transport part. -/
structure WellFormed (transport : TransportObservation) : Prop where
  /-- A status is an HTTP status. -/
  httpStatus : ∀ status ∈ transport.providerHttpStatus, 100 ≤ status ∧ status ≤ 599
  /-- An error code is a bounded identifier. -/
  errorCode : ∀ code ∈ transport.providerErrorCode, isTelemetryIdentifier code = true
  /-- A stage is a bounded identifier. -/
  stage : ∀ stage ∈ transport.transportStage, isTelemetryIdentifier stage = true
  /-- An answer comes over the network. -/
  attempted : transport.responseReceived = some true → transport.networkAttempted = some true
  /-- Telemetry of an answer needs an answer. -/
  received : transport.providerHttpStatus.isSome ∨ transport.providerErrorCode.isSome →
    transport.responseReceived = some true

instance (transport : TransportObservation) : Decidable transport.WellFormed :=
  decidable_of_iff
    ((∀ status ∈ transport.providerHttpStatus, 100 ≤ status ∧ status ≤ 599) ∧
      (∀ code ∈ transport.providerErrorCode, isTelemetryIdentifier code = true) ∧
      (∀ stage ∈ transport.transportStage, isTelemetryIdentifier stage = true) ∧
      (transport.responseReceived = some true → transport.networkAttempted = some true) ∧
      (transport.providerHttpStatus.isSome ∨ transport.providerErrorCode.isSome →
        transport.responseReceived = some true))
    ⟨fun ⟨status, code, stage, attempted, received⟩ => ⟨status, code, stage, attempted, received⟩,
      fun formed => ⟨formed.httpStatus, formed.errorCode, formed.stage, formed.attempted,
        formed.received⟩⟩

end TransportObservation

/-- An observation without an answer, of a known price or of none. -/
def unansweredObservation (providerId : String) (durationMs : Option Nat)
    (transport : TransportObservation) (formed : transport.WellFormed) (free : Bool) :
    ProviderObservation where
  providerId := providerId
  model := none
  finishReason := none
  usage := ⟨none, none, none, none⟩
  currencyCostUsd := if free then some 0 else none
  costKind := if free then some "zero_local" else none
  pricingBasisVersion := if free then some "macr-pre-network-v1" else none
  durationMs := durationMs
  networkAttempted := transport.networkAttempted
  responseReceived := transport.responseReceived
  providerHttpStatus := transport.providerHttpStatus
  providerErrorCode := transport.providerErrorCode
  transportStage := transport.transportStage
  cost_nonneg := by cases free <;> simp
  httpStatus_bounded := formed.httpStatus
  errorCode_safe := formed.errorCode
  transportStage_safe := formed.stage
  response_attempted := formed.attempted
  telemetry_response := formed.received
  responseId := none
  answerBytes := none
  providerState := .malformed
  answer_bounded := by simp
  texts_nonblank := by
    cases free
    · simp
    · simp only [if_true, Option.toList_none, Option.toList_some, List.nil_append,
        List.cons_append, List.mem_cons, List.not_mem_nil, or_false]
      rintro text (rfl | rfl) <;> decide

/-- An observation without any transport is well formed. -/
theorem TransportObservation.wellFormed_default : (⟨none, none, none, none, none⟩ :
    TransportObservation).WellFormed := by
  constructor <;> simp

/-! ## Results -/

/-- `cost["currency_cost_usd"]`, as Python sees it. -/
inductive CostReport where
  | absent
  | notNumber
  | amount (value : ℚ)
  | infinite (positive : Bool)
  | notANumber
deriving DecidableEq

/-- The part of a `ProviderResult` that the runtime and its callers read. -/
structure ProviderResult where
  /-- The task it names. -/
  taskId : String
  /-- What became of the candidate. -/
  status : CandidateStatus
  /-- The answer. -/
  answer : String
  /-- The amount it reports. -/
  cost : CostReport
  /-- Its warnings. -/
  warnings : List String
  /-- Its metadata. -/
  providerMeta : Payload
  /-- The code of a failure. -/
  failureCode : Option String
  /-- Where it failed. -/
  failureStage : Option String
  /-- The task is named by an identifier. -/
  taskId_valid : isTaskId taskId = true
  /-- A code and a stage go together. -/
  failure_together : failureCode.isNone = failureStage.isNone
  /-- A code is an identifier. -/
  failureCode_valid : ∀ code ∈ failureCode, isFailureId code = true
  /-- A stage is an identifier. -/
  failureStage_valid : ∀ stage ∈ failureStage, isFailureId stage = true

/-- The value of a key. -/
def Payload.get (payload : Payload) (key : String) : Option Json :=
  (payload.find? (fun field => field.1 = key)).map (·.2)

/-- The mapping under a key, empty where there is none. -/
def Payload.mapping (payload : Payload) (key : String) : Payload :=
  match payload.get key with
  | some (.obj fields) => fields
  | _ => []

/-- `{**payload, key: value}`. -/
def Payload.set (payload : Payload) (key : String) (value : Json) : Payload :=
  if key ∈ payload.map (·.1) then
    payload.map (fun field => if field.1 = key then (key, value) else field)
  else payload ++ [(key, value)]

/-- A refused or failed candidate. -/
def failedResult (taskId : String) (warning failureCode failureStage : String)
    (providerMeta : Payload) : Except MacrError ProviderResult :=
  if valid : isTaskId taskId = true ∧ isFailureId failureCode = true ∧
      isFailureId failureStage = true then
    .ok
      { taskId := taskId
        status := .candidateFailure
        answer := ""
        cost := .absent
        warnings := [warning]
        providerMeta := providerMeta
        failureCode := some failureCode
        failureStage := some failureStage
        taskId_valid := valid.1
        failure_together := rfl
        failureCode_valid := by simp [valid.2.1]
        failureStage_valid := by simp [valid.2.2] }
  else .error (.valueError "ProviderResult.failure_code is invalid")

/-! ## Return contracts -/

/-- `ReturnContractState`. -/
inductive ReturnContractState where
  | valid
  | invalid
  | notEvaluated
deriving DecidableEq, Repr

/-- The stored text of a return-contract state. -/
def ReturnContractState.value : ReturnContractState → String
  | .valid => "valid"
  | .invalid => "invalid"
  | .notEvaluated => "not_evaluated"

/-- `ReturnContractValidation`. -/
structure ReturnContractValidation where
  /-- Whether the answer keeps the contract. -/
  state : ReturnContractState
  /-- Why. -/
  reasonCode : String
deriving DecidableEq

/-- What `json.loads` makes of a text. -/
inductive JsonReading where
  | object
  | other
  | duplicateKey
  | malformed
  /-- Another error: a number too long to be read, or a nesting too deep. -/
  | raised (className : String)

/-- The parsers that the validation calls. -/
structure AnswerReaders where
  /-- The patterns of fences and wrappers around a plain source in a language. -/
  prohibited : Option String → String → Bool
  /-- `json.loads`. -/
  loads : String → JsonReading

/-- `validate_return_contract`. -/
def validateReturnContract (readers : AnswerReaders) (task : RuntimeTask) (answer : String) :
    Except MacrError ReturnContractValidation :=
  if strip answer = "" then .ok ⟨.invalid, "answer_blank"⟩
  else
    match task.returnContract.format with
    | .exactText =>
      if some answer = task.returnContract.exactText then .ok ⟨.valid, "exact_text_match"⟩
      else .ok ⟨.invalid, "exact_text_mismatch"⟩
    | .plainSource =>
      if readers.prohibited task.returnContract.language answer then
        .ok ⟨.invalid, "plain_source_has_fence_or_prose"⟩
      else .ok ⟨.valid, "plain_source_valid"⟩
    | .jsonObject =>
      match readers.loads answer with
      | .object => .ok ⟨.valid, "json_object_valid"⟩
      | .other => .ok ⟨.invalid, "json_not_object"⟩
      | .duplicateKey => .ok ⟨.invalid, "json_duplicate_key"⟩
      | .malformed => .ok ⟨.invalid, "json_invalid"⟩
      | .raised className => .error (.other className)
    | .freeText => .ok ⟨.valid, "free_text_nonblank"⟩

/-! ## Executions -/

/-- `CaptureState`. -/
inductive CaptureState where
  | captured
  | absent
deriving DecidableEq, Repr

/-- The stored text of a capture state. -/
def CaptureState.value : CaptureState → String
  | .captured => "captured"
  | .absent => "absent"

/-- The part of a `ProviderExecution` that the runtime reads. -/
structure ProviderExecution where
  /-- What was observed. -/
  observation : ProviderObservation
  /-- What was returned. -/
  result : ProviderResult
  /-- Whether there is an answer to capture. -/
  captureState : CaptureState
  /-- Whether the answer keeps its contract. -/
  returnContractState : ReturnContractState

/-- `ProviderExecution.from_observation`. -/
def ProviderExecution.fromObservation (observation : ProviderObservation)
    (result : ProviderResult) : ProviderExecution where
  observation := observation
  result := result
  captureState := if observation.answerBytes.isSome then .captured else .absent
  returnContractState := .notEvaluated

end Macr
