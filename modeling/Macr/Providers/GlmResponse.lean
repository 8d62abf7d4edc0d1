import Macr.Providers.Documents
import Macr.Providers.Responses

/-!
# GLM responses

`GlmFlashWorkerProvider.invoke_observed` from the return of `post_json` on: the observation of the
document, its validation, and the failed result that takes the place of a document that is refused.
A document is any JSON object. Costs are exact; the metadata of a result repeats its observation and
is left out.
-/

namespace Macr.Providers.Glm

open Lib Lib.JsonText Answers

/-- `_FIXED_MODEL`. -/
def fixedModel : Text := name "glm-5.3-flash"

/-- `_LIST_INPUT_USD_PER_M`. -/
def listInputUsdPerM : ℚ := 15 / 100

/-- `_LIST_OUTPUT_USD_PER_M`. -/
def listOutputUsdPerM : ℚ := 50 / 100

/-- `_PROMOTIONAL_INPUT_USD_PER_M`. -/
def promotionalInputUsdPerM : ℚ := 75 / 1000

/-- `_PROMOTIONAL_OUTPUT_USD_PER_M`. -/
def promotionalOutputUsdPerM : ℚ := 25 / 100

/-- `_PROMOTIONAL_PRICE_OBSERVED_ON`. -/
def promotionalPriceObservedOn : String := "2026-08-27"

/-- `_PRICING_BASIS_VERSION`. -/
def pricingBasisVersion : String := "zai-2026-08-27"

/-- `ProviderProtocolError`. -/
def protocolError (message : String) : MacrError := .named "ProviderProtocolError" message

/-- The part of a task's constraints that the response is held against. -/
structure GlmBudget where
  /-- `max_output_tokens`. -/
  maxOutputTokens : Nat
  /-- `max_cost_usd`. -/
  maxCostUsd : ℚ

/-! ## Observation -/

/-- `_safe_non_negative_int`. -/
def safeNonNegativeInt : Option Document → Option Nat
  | some (.number number) =>
    if number.isInteger ∧ 0 ≤ number.integer then some number.integer.toNat else none
  | _ => none

/-- `_safe_non_empty_string`. -/
def safeNonEmptyString : Option Document → Option Text
  | some (.string text) => if isBlankText text then none else some text
  | _ => none

/-- The sum of `_estimated_cost`, exactly. -/
def estimatedCost (promptTokens completionTokens : Nat) (inputRate outputRate : ℚ) : ℚ :=
  (promptTokens * inputRate + completionTokens * outputRate) / 1000000

/-- `_estimated_cost` of counts, if both are there: each is made a float. -/
def estimatedCostOf (promptTokens completionTokens : Option Nat) (inputRate outputRate : ℚ) :
    Except MacrError (Option ℚ) :=
  match promptTokens, completionTokens with
  | some promptTokens, some completionTokens =>
    if isFloat promptTokens ∧ isFloat completionTokens then
      .ok (some (estimatedCost promptTokens completionTokens inputRate outputRate))
    else .error (.other "OverflowError")
  | _, _ => .ok none

/-- The value of a key of an object, and nothing of another value. -/
def fieldOf (value : Option Document) (key : String) : Option Document :=
  match value with
  | some (.object members) => field members key
  | _ => none

/-- The only item of an array. -/
def onlyItem : Option Document → Option Document
  | some (.array [item]) => some item
  | _ => none

/-- The content of the message of the only choice. -/
def contentOf (members : List (Text × Document)) : Option Document :=
  fieldOf (fieldOf (onlyItem (field members "choices")) "message") "content"

/-- `_safe_usage_detail` of a usage. -/
def safeUsageDetail (usage : Option Document) (detailsName fieldName : String) : Option Nat :=
  match usage with
  | some (.object usage) =>
    match field usage detailsName with
    | none | some .null => some 0
    | some (.object details) =>
      match field details fieldName with
      | none => some 0
      | given => safeNonNegativeInt given
    | _ => none
  | _ => none

/-- The bytes of a content, when UTF-8 encodes it. -/
def answerBytesOf : Option Document → Option (List UInt8)
  | some (.string content) => encodeText content
  | _ => none

/-- The state that a finish reason stands for. -/
def providerStateOf (finishReason : Option Text) : ProviderState :=
  match finishReason with
  | none => .malformed
  | some reason => if reason = name "stop" then .completed else .incomplete

/-- `_observe_response`. -/
def observeResponse (members : List (Text × Document)) (elapsedMs : Nat) :
    Except MacrError Observation := do
  let finishReason := safeNonEmptyString
    (fieldOf (onlyItem (field members "choices")) "finish_reason")
  let usage := field members "usage"
  let promptTokens := safeNonNegativeInt (fieldOf usage "prompt_tokens")
  let completionTokens := safeNonNegativeInt (fieldOf usage "completion_tokens")
  let listCost ← estimatedCostOf promptTokens completionTokens listInputUsdPerM listOutputUsdPerM
  (Observation.make {
    model := safeNonEmptyString (field members "model")
    responseId := safeNonEmptyString (field members "id")
    finishReason := finishReason
    usage := {
      inputTokens := promptTokens
      outputTokens := completionTokens
      reasoningTokens := safeUsageDetail usage "completion_tokens_details" "reasoning_tokens"
      cachedTokens := safeUsageDetail usage "prompt_tokens_details" "cached_tokens" }
    currencyCostUsd := listCost
    costKind := listCost.map fun _ => "estimated"
    pricingBasisVersion := listCost.map fun _ => pricingBasisVersion
    durationMs := some elapsedMs
    answerBytes := answerBytesOf (contentOf members)
    providerState := providerStateOf finishReason
    transport := {
      networkAttempted := some true
      responseReceived := some true
      providerHttpStatus := some 200
      providerErrorCode := none
      transportStage := some "response_received" } }).mapError fun raised => .other raised.className

/-! ## Results -/

/-- The cost that a result carries. -/
structure GlmCost where
  /-- `usage.prompt_tokens`, and its other counts. -/
  usage : ProviderUsage
  /-- `usage.total_tokens`. -/
  totalTokens : Option Nat
  /-- `currency_cost_usd`. -/
  currencyCostUsd : Option ℚ
  /-- `promotional_price_estimated_usd`. -/
  promotionalPriceEstimatedUsd : Option ℚ
  /-- `promotional_price_observed_on`. -/
  promotionalPriceObservedOn : Option String
  /-- `cost_kind`. -/
  costKind : Option String
  /-- `pricing_basis_version`. -/
  pricingBasisVersion : Option String

/-- `ProviderResult`, without its metadata. -/
structure GlmResult where
  /-- `status`. -/
  status : CandidateStatus
  /-- `answer`. -/
  answer : Text
  /-- `cost`. -/
  cost : GlmCost
  /-- `warnings`. -/
  warnings : List String
  /-- `failure_code`. -/
  failureCode : Option String
  /-- `failure_stage`. -/
  failureStage : Option String

/-- `ProviderExecution`: the observation, the result, and whether an answer was captured. -/
structure GlmExecution where
  /-- `observation`. -/
  observation : Observation
  /-- `result`. -/
  result : GlmResult
  /-- `capture_state is CaptureState.CAPTURED`. -/
  captured : Bool

/-- `_cost_from_observation`. -/
def costFromObservation (members : List (Text × Document)) (observation : Observation) :
    Except MacrError GlmCost := do
  let promotionalCost ← estimatedCostOf observation.usage.inputTokens
    observation.usage.outputTokens promotionalInputUsdPerM promotionalOutputUsdPerM
  return {
    usage := observation.usage
    totalTokens := safeNonNegativeInt (fieldOf (field members "usage") "total_tokens")
    currencyCostUsd := observation.currencyCostUsd
    promotionalPriceEstimatedUsd := promotionalCost
    promotionalPriceObservedOn := promotionalCost.map fun _ => promotionalPriceObservedOn
    costKind := observation.costKind
    pricingBasisVersion := observation.pricingBasisVersion }

/-- `_non_negative_int` of a count that was observed. -/
def nonNegativeInt (given : String) (count : Option Nat) : Except MacrError Nat :=
  require count (protocolError s!"GLM {given} must be a non-negative integer")

/-- `value in (None, {}, [])`. -/
def isNoWebSearch : Option Document → Bool
  | none | some .null | some (.object []) | some (.array []) => true
  | _ => false

/-- `value in (None, [])`. -/
def isNoToolCalls : Option Document → Bool
  | none | some .null | some (.array []) => true
  | _ => false

/-- `value == text`. -/
def isText (text : Text) : Option Document → Bool
  | some (.string given) => given = text
  | _ => false

/-- `isinstance(value, dict)`. -/
def isObject : Option Document → Bool
  | some (.object _) => true
  | _ => false

/-- A content that is a text and not blank. -/
def presentContent (content : Option Document) : Option Text := safeNonEmptyString content

/-- The reasoning took all tokens but one at most. -/
def reasoningExhausted (usage : ProviderUsage) : Bool :=
  match usage.outputTokens, usage.reasoningTokens with
  | some output, some reasoning => 0 < output && reasoning ≤ output && output ≤ reasoning + 1
  | _, _ => false

/-- The checks of `_validate_observation` on the answer: the content. -/
def validateAnswer (members : List (Text × Document)) (observation : Observation) :
    Except MacrError Text := do
  raiseIf (isNoWebSearch (field members "web_search") = false)
    (protocolError "GLM response unexpectedly contained web search metadata")
  raiseIf (isText fixedModel (field members "model") = false)
    (protocolError "GLM response model did not match the fixed requested model")
  let choice ← require (onlyItem (field members "choices"))
    (protocolError "GLM response must contain exactly one choice")
  raiseIf (isObject (some choice) = false) (protocolError "GLM response choice must be an object")
  let message := fieldOf (some choice) "message"
  let content := presentContent (fieldOf message "content")
  let finishReason := fieldOf (some choice) "finish_reason"
  raiseIf (isText (name "length") finishReason = true ∧ content = none ∧
      reasoningExhausted observation.usage = true)
    (.named "ProviderReasoningBudgetExhaustedError" ("GLM reasoning exhausted the requested " ++
      "max_output_tokens before producing answer content; increase max_output_tokens and " ++
      "obtain a new approval before retrying"))
  raiseIf (isText (name "stop") finishReason = false)
    (protocolError "GLM response finish_reason must be stop")
  let content ← require content (protocolError "GLM response contains no text content")
  raiseIf (isNoToolCalls (fieldOf message "tool_calls") = false)
    (protocolError "GLM response unexpectedly contained tool calls")
  return content

/-- The checks of `_validate_observation` on the usage. -/
def validateUsage (budget : GlmBudget) (members : List (Text × Document))
    (observation : Observation) : Except MacrError Unit := do
  let usage := field members "usage"
  raiseIf (isObject usage = false) (protocolError "GLM response usage must be an object")
  let promptTokens ← nonNegativeInt "prompt_tokens" observation.usage.inputTokens
  let completionTokens ← nonNegativeInt "completion_tokens" observation.usage.outputTokens
  raiseIf (budget.maxOutputTokens < completionTokens)
    (protocolError "GLM completion tokens exceeded the requested output bound")
  let totalTokens ← nonNegativeInt "total_tokens" (safeNonNegativeInt (fieldOf usage "total_tokens"))
  raiseIf (totalTokens ≠ promptTokens + completionTokens)
    (protocolError "GLM total_tokens must equal prompt_tokens plus completion_tokens")
  let _ ← nonNegativeInt "cached_tokens" observation.usage.cachedTokens
  let _ ← nonNegativeInt "reasoning_tokens" observation.usage.reasoningTokens
  return ()

/-- `response_id is not None and not isinstance(response_id, str)`. -/
def isOddId : Option Document → Bool
  | none | some .null | some (.string _) => false
  | _ => true

/-- `_validate_observation`. -/
def validateObservation (budget : GlmBudget) (members : List (Text × Document))
    (observation : Observation) : Except MacrError GlmResult := do
  let content ← validateAnswer members observation
  validateUsage budget members observation
  let listCost ← require observation.currencyCostUsd .assertionError
  let overBudget : Bool := budget.maxCostUsd < listCost
  raiseIf (isOddId (field members "id") = true) (protocolError "GLM response id must be a string")
  let cost ← costFromObservation members observation
  return {
    status := if overBudget then .candidateFailure else .candidateSuccess
    answer := if overBudget then [] else content
    cost := cost
    warnings := ["Unverified GLM output; acceptance is separate.",
      "Cost uses conservative list pricing; the dated promotional estimate may be lower."] ++
        (if overBudget then ["Estimated conservative provider cost exceeded max_cost_usd."] else [])
    failureCode := none
    failureStage := none }

/-- The message of an error. -/
def messageOf : MacrError → String
  | .named _ message => message
  | _ => ""

/-- `except MacrError`: the failed result of a document that was refused. -/
def failedResult (members : List (Text × Document)) (observation : Observation)
    (error : MacrError) : Except MacrError GlmResult := do
  raiseIf (error.isMacrError = false) error
  let cost ← costFromObservation members observation
  return {
    status := .candidateFailure
    answer := []
    cost := cost
    warnings := [messageOf error]
    failureCode := some error.className
    failureStage := some "provider_response_validation" }

/-- The result of a document. -/
def resultOf (budget : GlmBudget) (members : List (Text × Document)) (observation : Observation) :
    Except MacrError GlmResult :=
  match validateObservation budget members observation with
  | .ok result => .ok result
  | .error error => failedResult members observation error

/-- `invoke_observed` from the return of `post_json` on. -/
def handleResponse (budget : GlmBudget) (members : List (Text × Document)) (elapsedMs : Nat) :
    Except MacrError GlmExecution := do
  let observation ← observeResponse members elapsedMs
  let result ← resultOf budget members observation
  return ⟨observation, result, observation.answerBytes.isSome⟩

end Macr.Providers.Glm
