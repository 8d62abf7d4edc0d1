import Macr.Providers.HttpJson

/-!
# The Grok adapter

One call of `GrokResponsesProvider`: the checks before the network, the request over the HTTP
transport, the validation of the document and the execution that is returned. What the checks read
of the configuration, the environment and the admission kernel is an input of the call.
-/

namespace Macr.Providers.Grok

open Lib Lib.JsonText Answers

/-! ## The call -/

/-- The part of a task that the adapter reads. -/
structure GrokTask where
  /-- `constraints.internet`. -/
  internet : Bool
  /-- `constraints.privacy`. -/
  privacy : String
  /-- `constraints.max_cost_usd`. -/
  maxCostUsd : ℚ
  /-- `constraints.max_latency_s`. -/
  maxLatencyS : ℚ
  /-- `constraints.max_output_tokens`. -/
  maxOutputTokens : Nat
  /-- `required_capabilities`. -/
  requiredCapabilities : List String

/-- The part of the configuration that the adapter reads. -/
structure GrokConfig where
  /-- `enabled`. -/
  enabled : Bool
  /-- `api_usage_allowed`. -/
  apiUsageAllowed : Bool
  /-- `auth_mode is AuthMode.API_KEY`. -/
  apiKeyAuth : Bool
  /-- `approved_privacy`. -/
  approvedPrivacy : List String
  /-- `capabilities`. -/
  capabilities : List String
  /-- `minimum_task_output_tokens` of the token policy. -/
  minimumTaskOutputTokens : Nat
  /-- `max_output_tokens` of the token policy. -/
  maxOutputTokens : Nat

/-- What is computed or looked up on the way to the network. -/
structure GrokSurroundings where
  /-- The checks of the admission permit and of the transport binding. -/
  permit : Except Raised Unit
  /-- The environment variable of the key. -/
  apiKey : Text
  /-- `resolve_base_url`. -/
  baseUrl : Except Raised Unit
  /-- `resolve_model`: the text is stripped and not empty. -/
  model : Except Raised {text : Text // isBlankText text = false}
  /-- `compile_worker_instruction` and `json.dumps` of the task. -/
  payload : Except Raised Unit
  /-- `ProviderAdmissionKernel.begin_transport`. -/
  beginTransport : Except Raised Unit
  /-- The length of the encoded request. -/
  requestBytes : Except Raised Nat

/-- `_check_task_policy`. -/
def checkTaskPolicy (config : GrokConfig) (task : GrokTask) : Except Raised Unit := do
  refuse (¬config.enabled) (plain "ProviderPolicyError")
  refuse (¬config.apiUsageAllowed) (plain "ProviderPolicyError")
  refuse (¬config.apiKeyAuth) (plain "ProviderPolicyError")
  refuse (¬task.internet) (plain "ProviderPolicyError")
  refuse (task.privacy ∉ config.approvedPrivacy) (plain "ProviderPolicyError")
  refuse (task.maxCostUsd ≤ 0) (plain "ProviderPolicyError")
  refuse (task.maxLatencyS ≤ 0) (plain "ProviderPolicyError")
  refuse (task.maxOutputTokens < config.minimumTaskOutputTokens)
    (plain "ProviderOutputBudgetTooSmallError")
  refuse (config.maxOutputTokens < task.maxOutputTokens) (plain "ProviderPolicyError")
  refuse (¬∀ item ∈ task.requiredCapabilities, item ∈ config.capabilities)
    (plain "ProviderPolicyError")

/-- What an error says before the network is used. -/
def unsent (stage : String) : TransportObservation :=
  { networkAttempted := some false, responseReceived := some false, transportStage := some stage }

/-- `invoke` up to the opening of the connection: the model. -/
def beforeNetwork (limits : HttpLimits) (config : GrokConfig) (surroundings : GrokSurroundings)
    (task : GrokTask) : Except Raised {text : Text // isBlankText text = false} := do
  checkTaskPolicy config task
  surroundings.permit
  refuse (isBlankText surroundings.apiKey)
    (diagnosed "ProviderUnavailableError" (unsent "pre_network"))
  surroundings.baseUrl
  let model ← surroundings.model
  surroundings.payload
  surroundings.beginTransport
  let requestBytes ← surroundings.requestBytes
  refuse (limits.maxRequestBytes < requestBytes)
    (diagnosed "ProviderProtocolError" (unsent "request_validation"))
  return model

/-! ## The document -/

/-- The texts of the `output_text` blocks of a message. -/
def blockTexts : Document → List Text
  | .object block =>
    match field block "type", field block "text" with
    | some (.string kind), some (.string text) => if kind = name "output_text" then [text] else []
    | _, _ => []
  | _ => []

/-- The texts of one item of the output. -/
def itemTexts : Document → List Text
  | .object item =>
    match field item "type", field item "content" with
    | some (.string kind), some (.array content) =>
      if kind = name "message" then content.flatMap blockTexts else []
    | _, _ => []
  | _ => []

/-- `_extract_output_text`. -/
def extractOutputText (members : List (Text × Document)) : Except Raised Text :=
  match field members "output" with
  | some (.array output) => do
    let parts := output.flatMap itemTexts
    refuse (parts = []) protocolError
    return parts.flatten
  | _ => .error protocolError

/-- `_optional_non_negative_int`. -/
def optionalNonNegativeInt : Option Document → Except Raised (Option Nat)
  | none | some .null => .ok none
  | some (.number number) =>
    if number.isInteger ∧ 0 ≤ number.integer then .ok (some number.integer.toNat)
    else .error protocolError
  | _ => .error protocolError

/-- The field of details, or of nothing when they are no object. -/
def detail (usage : List (Text × Document)) (details key : String) : Option Document :=
  match field usage details with
  | some (.object members) => field members key
  | _ => none

/-- `_normalized_usage`. -/
structure GrokUsage extends ProviderUsage where
  /-- `num_server_side_tools_used`. -/
  numServerSideToolsUsed : Option Nat
  /-- `cost_in_usd_ticks`. -/
  costInUsdTicks : Option Nat
deriving DecidableEq

/-- `num_server_side_tools_used`, which is zero by default. -/
def serverSideTools : Option Document → Except Raised (Option Nat)
  | none => .ok (some 0)
  | some given => optionalNonNegativeInt (some given)

/-- `_normalized_usage` of a document. -/
def normalizedUsage (members : List (Text × Document)) : Except Raised GrokUsage :=
  match field members "usage" with
  | some (.object usage) => do
    let inputTokens ← optionalNonNegativeInt (field usage "input_tokens")
    let outputTokens ← optionalNonNegativeInt (field usage "output_tokens")
    let reasoningTokens ← optionalNonNegativeInt
      (detail usage "output_tokens_details" "reasoning_tokens")
    let cachedTokens ← optionalNonNegativeInt (detail usage "input_tokens_details" "cached_tokens")
    let tools ← serverSideTools (field usage "num_server_side_tools_used")
    let ticks ← optionalNonNegativeInt (field usage "cost_in_usd_ticks")
    return ⟨⟨inputTokens, outputTokens, reasoningTokens, cachedTokens⟩, tools, ticks⟩
  | _ => .error protocolError

/-- `document.get("status") not in {None, "completed"}`; an array or an object has no hash. -/
def checkStatus : Option Document → Except Raised Unit
  | none | some .null => .ok ()
  | some (.string status) => refuse (status ≠ name "completed") protocolError
  | some (.array _) | some (.object _) => .error (plain "TypeError")
  | _ => .error protocolError

/-- The model of a response has to be the one that was asked for. -/
def checkModel (model : Text) : Option Document → Except Raised Unit
  | some (.string returned) => refuse (returned ≠ model) protocolError
  | _ => .error protocolError

/-- The id of a response: absent or a string. -/
def responseIdOf : Option Document → Except Raised (Option Text)
  | none | some .null => .ok none
  | some (.string text) => .ok (some text)
  | _ => .error protocolError

/-- What the block that validates a response reads of it. -/
structure GrokAnswer where
  /-- The answer. -/
  answer : Text
  /-- The usage. -/
  usage : GrokUsage
  /-- The ticks of the cost. -/
  costTicks : Nat
  /-- The id. -/
  responseId : Option Text

/-- The block of `invoke` that validates a response. -/
def validateResponse (model : Text) (members : List (Text × Document)) :
    Except Raised GrokAnswer := do
  checkStatus (field members "status")
  checkModel model (field members "model")
  let answer ← extractOutputText members
  let usage ← normalizedUsage members
  refuse (usage.numServerSideToolsUsed ≠ some 0) protocolError
  let costTicks ← present usage.costInUsdTicks protocolError
  let responseId ← responseIdOf (field members "id")
  return ⟨answer, usage, costTicks, responseId⟩

/-- `except ProviderProtocolError`: the error is raised again with the telemetry. -/
def withTelemetry (raised : Raised) : Raised :=
  if raised.className = "ProviderProtocolError" then
    diagnosed "ProviderProtocolError" (receivedAt "response_validation" none none)
  else raised

/-- `_cost_usd`, where the quotient of two integers has to be one that a float holds. -/
def costUsd (costTicks : Nat) : Except Raised ℚ := do
  let quotient : ℚ := costTicks / 10000000000
  refuse (¬isFloat quotient) (plain "OverflowError")
  return quotient

/-- `answer.encode("utf-8") if answer else None`. -/
def encodeAnswer (answer : Text) : Except Raised (Option (List UInt8)) :=
  if answer = [] then .ok none
  else (present (encodeText answer) (plain "UnicodeEncodeError")).map some

/-- `ProviderExecution.from_result` of the result of a validated response. -/
def fromResult (model : Text) (validated : GrokAnswer) (cost : ℚ) (overBudget : Bool) :
    Except Raised Execution := do
  let answerBytes ← encodeAnswer validated.answer
  let observation ← Observation.make {
    model := some model
    responseId := validated.responseId
    finishReason := none
    usage := validated.usage.toProviderUsage
    currencyCostUsd := some cost
    costKind := none
    pricingBasisVersion := none
    durationMs := none
    answerBytes := answerBytes
    providerState := .completed
    transport := receivedAt "response_received" none none }
  return ⟨observation, if overBudget then .candidateFailure else .candidateSuccess,
    validated.answer, none⟩

/-- `invoke_observed` from the document on. -/
def observeDocument (task : GrokTask) (model : Text) (members : List (Text × Document)) :
    Except Raised Execution := do
  let validated ← (validateResponse model members).mapError withTelemetry
  let cost ← costUsd validated.costTicks
  fromResult model validated cost (task.maxCostUsd < cost)

/-- `invoke_observed`. -/
def invokeObserved (limits : HttpLimits) (config : GrokConfig) (surroundings : GrokSurroundings)
    (task : GrokTask) (exchange : Exchange) : Except Raised Execution := do
  let model ← beforeNetwork limits config surroundings task
  let members ← openAndDecode limits exchange
  observeDocument task model.val members

end Macr.Providers.Grok
