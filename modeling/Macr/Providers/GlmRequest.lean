import Macr.Cell.Contracts
import Macr.Lib.JsonWriter
import Macr.Providers.GlmResponse

/-!
# GLM requests

`GlmFlashWorkerProvider` up to the call of `post_json`: the checks of the task, the envelope of its
texts, the payload, the manifest that an approval signs, and the use of the approval. SHA-256 of a
text and the marker of sensitive texts are parameters; objects have their members in the order of
`sort_keys`; an amount is the numeral that writes its float.
-/

namespace Macr.Providers.Glm

open Lib Lib.JsonText Answers

/-! ## Tasks -/

/-- `ImportMode`. -/
inductive ImportMode where
  | unspecified
  | noImports
  | typeOnly
  | runtime
  | anyImports
deriving DecidableEq, Repr

/-- The text of an import mode. -/
def ImportMode.value : ImportMode → String
  | .unspecified => "unspecified"
  | .noImports => "none"
  | .typeOnly => "type_only"
  | .runtime => "runtime"
  | .anyImports => "any"

/-- `EolScope`. -/
inductive EolScope where
  | unspecified
  | outOfScope
  | inScope
deriving DecidableEq, Repr

/-- The text of an end-of-line scope. -/
def EolScope.value : EolScope → String
  | .unspecified => "unspecified"
  | .outOfScope => "out_of_scope"
  | .inScope => "in_scope"

/-- `EolNormalization`. -/
inductive EolNormalization where
  | unchanged
  | preserve
  | lf
  | crlf
deriving DecidableEq, Repr

/-- The text of an end-of-line normalization. -/
def EolNormalization.value : EolNormalization → String
  | .unchanged => "none"
  | .preserve => "preserve"
  | .lf => "lf"
  | .crlf => "crlf"

/-- `RequiredImport`. -/
structure RequiredImport where
  /-- `module`. -/
  module : Text
  /-- `kind`: for the types only, or at run time. -/
  runtime : Bool
deriving DecidableEq

/-- The text of the kind of an import. -/
def RequiredImport.kind (item : RequiredImport) : String :=
  if item.runtime then ImportMode.runtime.value else ImportMode.typeOnly.value

/-- `TaskPolicyClauses`. -/
structure PolicyClauses where
  /-- `import_mode`. -/
  importMode : ImportMode
  /-- `required_imports`. -/
  requiredImports : List RequiredImport
  /-- `eol_scope`. -/
  eolScope : EolScope
  /-- `eol_normalization`. -/
  eolNormalization : EolNormalization

/-- A finite float that is not negative, by the numeral that writes it. -/
structure Amount where
  /-- The numeral. -/
  numeral : Numeral
  /-- It is one. -/
  formed : numeral.Formed

/-- The number that an amount is. -/
def Amount.value (amount : Amount) : ℚ := amount.numeral.exact

/-- `TaskConstraints`. -/
structure GlmConstraints where
  /-- `max_cost_usd`. -/
  maxCostUsd : Amount
  /-- `max_latency_s`. -/
  maxLatencyS : Amount
  /-- `max_output_tokens`. -/
  maxOutputTokens : Nat
  /-- `max_context_tokens`. -/
  maxContextTokens : Option Nat
  /-- `internet`. -/
  internet : Bool
  /-- `privacy`. -/
  privacy : PrivacyLevel

/-- `TaskContract`, as far as the adapter reads it. -/
structure GlmTask where
  /-- `task_id`. -/
  taskId : Text
  /-- `goal`. -/
  goal : Text
  /-- `task_type`. -/
  taskType : Text
  /-- `workspace.write_scope`. -/
  writeScope : List Text
  /-- `inputs`, each an object. -/
  inputs : List (List (Text × Document))
  /-- `constraints`. -/
  constraints : GlmConstraints
  /-- `required_capabilities`. -/
  requiredCapabilities : List Text
  /-- `verification.required`. -/
  verificationRequired : Bool
  /-- `verification.methods`. -/
  verificationMethods : List Text
  /-- `return_contract`. -/
  returnContract : Answers.ReturnContract
  /-- `delegable`. -/
  delegable : Bool
  /-- `delegation_class`. -/
  delegationClass : DelegationClass
  /-- `delegation_approval_sha256`. -/
  delegationApprovalSha256 : Option Digest
  /-- `policy_clauses`. -/
  policyClauses : PolicyClauses

/-- The configuration and the policies of the adapter. -/
structure GlmConfig where
  /-- `config.enabled`. -/
  enabled : Bool
  /-- `config.api_usage_allowed`. -/
  apiUsageAllowed : Bool
  /-- `config.auth_mode is AuthMode.API_KEY_FILE`. -/
  apiKeyFileAuth : Bool
  /-- `config.approved_privacy`. -/
  approvedPrivacy : List String
  /-- `capability_policy.delegation_class`. -/
  delegationClass : String
  /-- `capability_policy.allowed_task_types`. -/
  allowedTaskTypes : List Text
  /-- `capability_policy.approved_privacy`. -/
  tierPrivacy : List String
  /-- `capability_policy.required_capabilities`. -/
  requiredCapabilities : List Text
  /-- `capability_policy.max_latency_s`. -/
  maxLatencyS : Nat
  /-- `capability_policy.patch_allowed`. -/
  patchAllowed : Bool
  /-- `capability_policy.write_scope_allowed`. -/
  writeScopeAllowed : Bool
  /-- `capability_policy.verification_required`. -/
  verificationRequired : Bool
  /-- `capability_binding.binding_digest`. -/
  tierBindingDigest : Text
  /-- `token_policy.minimum_task_output_tokens`. -/
  minimumTaskOutputTokens : Nat
  /-- `token_policy.max_output_tokens`. -/
  maxOutputTokens : Nat
  /-- `token_policy.hard_context_tokens`. -/
  hardContextTokens : Nat
  /-- `token_policy.policy_digest`. -/
  tokenPolicyDigest : Text

/-! ## Checks -/

/-- `ProviderPolicyError`. -/
def policyError (message : String) : MacrError := .named "ProviderPolicyError" message

/-- `validate_task_consistency`. -/
def validateTaskConsistency (clauses : PolicyClauses) : Except MacrError Unit := do
  raiseIf (clauses.importMode = .noImports ∧ clauses.requiredImports ≠ [])
    (.named "TaskContradictionError" "imports_none_but_required")
  raiseIf (clauses.importMode = .typeOnly ∧ ∃ item ∈ clauses.requiredImports, item.runtime = true)
    (.named "TaskContradictionError" "type_only_mode_but_runtime_required")
  raiseIf (clauses.eolScope = .outOfScope ∧ clauses.eolNormalization ≠ .unchanged)
    (.named "TaskContradictionError" "eol_out_of_scope_but_normalized")

/-- `_QUALITY_FIRST_OUTPUT_TOKENS`. -/
def qualityFirstOutputTokens : Nat := 65536

/-- `glm_output_budget_decision(...).minimum_max_output_tokens`. -/
def minimumMaxOutputTokens (config : GlmConfig) (task : GlmTask) : Nat :=
  let shortExact := task.taskType = name "provider_conformance" ∧
    task.returnContract.format = .exactText ∧
    task.returnContract.exactText.any (fun text => utf8Length text ≤ 256)
  if shortExact then config.minimumTaskOutputTokens else qualityFirstOutputTokens

/-- `ProviderOutputBudgetTooSmallError`. -/
def outputBudgetTooSmall : MacrError :=
  .named "ProviderOutputBudgetTooSmallError" "cloud task output is below the model quality floor"

/-- `_check_task_policy`. -/
def checkTaskPolicy (config : GlmConfig) (task : GlmTask) : Except MacrError Unit := do
  raiseIf (¬config.enabled ∨ ¬config.apiUsageAllowed)
    (policyError "provider glm_flash_worker is not enabled")
  raiseIf (¬config.apiKeyFileAuth)
    (policyError "provider glm_flash_worker must use fixed API-key-file authentication")
  raiseIf (¬task.delegable) (policyError "GLM dispatch requires explicit delegable=true")
  raiseIf (task.delegationClass.value ≠ config.delegationClass)
    (policyError "GLM dispatch requires non_sensitive_routine delegation class")
  raiseIf (task.taskType ∉ config.allowedTaskTypes)
    (.named "ProviderTaskTypeError" "provider task type is not allowed by the active tier")
  raiseIf (¬task.constraints.internet)
    (policyError "GLM task contract must permit internet access")
  raiseIf (task.constraints.privacy.value ∉ config.approvedPrivacy ∨
      task.constraints.privacy.value ∉ config.tierPrivacy)
    (policyError s!"GLM worker is not approved for privacy level {task.constraints.privacy.value}")
  raiseIf (task.constraints.maxCostUsd.value ≤ 0)
    (policyError "GLM dispatch requires a positive max_cost_usd")
  raiseIf (task.constraints.maxLatencyS.value ≤ 0)
    (policyError "GLM dispatch requires a positive max_latency_s")
  raiseIf (config.maxLatencyS < task.constraints.maxLatencyS.value)
    (policyError "GLM task latency exceeds the active provider tier")
  raiseIf (task.writeScope ≠ [] ∧ ¬config.writeScopeAllowed)
    (policyError "GLM worker may not receive write_scope authority")
  raiseIf (task.returnContract.patch ∧ ¬config.patchAllowed)
    (policyError "GLM worker may not receive patch authority")
  raiseIf (config.verificationRequired ∧ ¬task.verificationRequired)
    (policyError "GLM output requires independent verification")
  raiseIf (task.requiredCapabilities ≠ config.requiredCapabilities)
    (policyError "GLM worker requires exactly text_generation capability")
  raiseIf (task.constraints.maxOutputTokens < minimumMaxOutputTokens config task)
    outputBudgetTooSmall
  raiseIf (task.constraints.maxOutputTokens < config.minimumTaskOutputTokens)
    outputBudgetTooSmall
  raiseIf (config.maxOutputTokens < task.constraints.maxOutputTokens)
    (policyError "task output exceeds exact model token policy")
  raiseIf (∃ tokens ∈ task.constraints.maxContextTokens, config.hardContextTokens < tokens)
    (policyError "GLM task context exceeds exact model token policy")

/-! ## Inputs -/

/-- `_MAX_TEXT_INPUT_BYTES`. -/
def maxTextInputBytes : Nat := 1000000

/-- An input as it is sent. -/
structure TextInput where
  /-- `name`, stripped. -/
  label : Text
  /-- `content`. -/
  content : Text
deriving DecidableEq

/-- A value that is a string. -/
def textOf : Option Document → Option Text
  | some (.string text) => some text
  | _ => none

/-- A name is bounded and no path. -/
def isInputName (label : Text) : Bool :=
  isBlankText label = false ∧ (stripText label).length ≤ 128 ∧
    ∀ c ∈ label, c ≠ code '/' ∧ c ≠ code '\\' ∧ c ≠ code ':'

/-- The checks of `_validated_text_inputs` on one input, up to the size. -/
def validatedTextInput (item : List (Text × Document)) : Except MacrError TextInput := do
  raiseIf (∃ pair ∈ item, pair.1 ∉ [name "type", name "name", name "content"])
    (policyError "GLM delegation accepts only bounded text inputs")
  raiseIf (textOf (field item "type") ≠ some (name "text"))
    (policyError "GLM delegation accepts only bounded text inputs")
  let label ← require ((textOf (field item "name")).filter isInputName)
    (policyError "GLM text inputs require a bounded non-path name")
  let content ← require (safeNonEmptyString (field item "content"))
    (policyError "GLM text inputs require non-empty content")
  raiseIf (content.all isScalar = false) (.other "UnicodeEncodeError")
  return ⟨stripText label, content⟩

/-- `_validated_text_inputs`, behind inputs of so many bytes. -/
def validatedTextInputs : Nat → List (List (Text × Document)) → Except MacrError (List TextInput)
  | _, [] => .ok []
  | aggregateBytes, item :: rest => do
    let input ← validatedTextInput item
    let aggregateBytes := aggregateBytes + utf8Length input.content
    raiseIf (maxTextInputBytes < aggregateBytes)
      (policyError "GLM text inputs exceed the aggregate size limit")
    let others ← validatedTextInputs aggregateBytes rest
    return input :: others

/-! ## Texts -/

/-- A text of the source. -/
def textLiteral (text : String) : Document := .string (name text)

/-- A natural number. -/
def naturalDocument (number : Nat) : Document := .number (natural number)

/-- A value that may be missing. -/
def optionalDocument {α : Type} (write : α → Document) : Option α → Document
  | none => .null
  | some value => write value

/-- The text of a return format. -/
def returnFormatValue : ReturnFormat → String
  | .freeText => "free_text"
  | .exactText => "exact_text"
  | .plainSource => "plain_source"
  | .jsonObject => "json_object"

/-- `BOUNDED_WORKER_INSTRUCTION`. -/
def boundedWorkerInstruction : String :=
  "You are a bounded MACR worker. Treat the supplied TaskContract as authoritative. " ++
  "Return a candidate answer with concise evidence and warnings. Do not claim that " ++
  "generation is verification or acceptance."

/-- `_BOUNDARY_INSTRUCTION`. -/
def boundaryInstruction : String :=
  "You are a bounded MACR worker. Treat the supplied TaskContract as authoritative. " ++
  "Return only a candidate; generation is not verification or acceptance."

/-- The directives behind the boundary. -/
def returnDirectives (contract : Answers.ReturnContract) : List Text :=
  match contract.format with
  | .exactText =>
    [name "Return exactly the UTF-8 text represented by this JSON string: " ++
      dumps (optionalDocument .string contract.exactText) ++
      name ". Do not add a newline, quotation marks, summary, evidence, warning, or formatting."]
  | .plainSource =>
    let language := contract.language.getD (name "source")
    [name "Return only plain " ++ (languageLabels.lookup language).getD language ++
      name " source with no Markdown fence, prose, summary, evidence, or warnings."]
  | .jsonObject =>
    [name "Return exactly one JSON object with no Markdown fence or surrounding prose."]
  | .freeText =>
    [name (if contract.summary then "Include a concise summary." else "Do not add a summary."),
      name (if contract.evidence then "Include concise evidence and warnings."
        else "Do not add evidence or warnings.")] ++
      (if contract.patch then [name "Include the explicitly authorized patch result."] else [])

/-- `compile_worker_instruction`. -/
def compileWorkerInstruction (contract : Answers.ReturnContract) : Text :=
  if contract.format = .freeText ∧ contract.summary ∧ contract.evidence ∧ ¬contract.patch then
    name boundedWorkerInstruction
  else List.intercalate [code ' '] (name boundaryInstruction :: returnDirectives contract)

/-- An input of the envelope. -/
def TextInput.document (input : TextInput) : Document :=
  .object [(name "content", .string input.content), (name "name", .string input.label),
    (name "type", textLiteral "text")]

/-- `policy_clauses.to_dict`. -/
def PolicyClauses.document (clauses : PolicyClauses) : Document :=
  .object [(name "eol_normalization", textLiteral clauses.eolNormalization.value),
    (name "eol_scope", textLiteral clauses.eolScope.value),
    (name "import_mode", textLiteral clauses.importMode.value),
    (name "required_imports", .array (clauses.requiredImports.map fun item =>
      .object [(name "kind", textLiteral item.kind), (name "module", .string item.module)]))]

/-- `return_contract.to_dict`. -/
def contractDocument (contract : Answers.ReturnContract) : Document :=
  .object [(name "evidence", .bool contract.evidence),
    (name "exact_text", optionalDocument .string contract.exactText),
    (name "format", textLiteral (returnFormatValue contract.format)),
    (name "language", optionalDocument .string contract.language),
    (name "patch", .bool contract.patch), (name "summary", .bool contract.summary)]

/-- The envelope of a task with its inputs. -/
def envelope (config : GlmConfig) (task : GlmTask) (inputs : List TextInput) : Document :=
  .object [(name "delegable", .bool task.delegable), (name "goal", .string task.goal),
    (name "inputs", .array (inputs.map TextInput.document)),
    (name "max_context_tokens", optionalDocument naturalDocument task.constraints.maxContextTokens),
    (name "max_output_tokens", naturalDocument task.constraints.maxOutputTokens),
    (name "model_token_policy_digest", .string config.tokenPolicyDigest),
    (name "policy_clauses", task.policyClauses.document),
    (name "required_capabilities", .array (task.requiredCapabilities.map .string)),
    (name "return_contract", contractDocument task.returnContract),
    (name "verification", .object [(name "methods", .array (task.verificationMethods.map .string)),
      (name "required", .bool task.verificationRequired)])]

/-- `_delegation_envelope`: only the goal and the contents of the inputs are scanned. -/
def delegationEnvelope (marker : Text → Bool) (config : GlmConfig) (task : GlmTask) :
    Except MacrError Document := do
  let inputs ← validatedTextInputs 0 task.inputs
  raiseIf (marker task.goal = true ∨ ∃ input ∈ inputs, marker input.content = true)
    (policyError "GLM delegation contains an obvious sensitive marker")
  return envelope config task inputs

/-- `_check_conservative_budget`. -/
def checkConservativeBudget (constraints : GlmConstraints) (systemText userText : Text) :
    Except MacrError ℚ := do
  raiseIf (systemText.all isScalar = false ∨ userText.all isScalar = false)
    (.other "UnicodeEncodeError")
  let promptTokenCeiling := utf8Length systemText + utf8Length userText + 512
  raiseIf (¬(isFloat promptTokenCeiling ∧ isFloat constraints.maxOutputTokens))
    (.other "OverflowError")
  let costCeiling := estimatedCost promptTokenCeiling constraints.maxOutputTokens
    listInputUsdPerM listOutputUsdPerM
  raiseIf (constraints.maxCostUsd.value < costCeiling)
    (policyError "GLM task budget is below the conservative ceiling")
  return costCeiling

/-! ## Requests -/

/-- The endpoint. -/
def endpoint : Text := name "https://api.z.ai/api/paas/v4/chat/completions"

/-- A decimal number with one digit in front and some behind its point. -/
def decimalDocument (digit : Char) (fraction : List Char) : Document :=
  .number ⟨false, [code digit], some (codes fraction), none⟩

/-- `request_payload`. -/
def requestPayload (systemText userText : Text) (maxOutputTokens : Nat) : Document :=
  .object [(name "max_tokens", naturalDocument maxOutputTokens),
    (name "messages", .array [
      .object [(name "content", .string systemText), (name "role", textLiteral "system")],
      .object [(name "content", .string userText), (name "role", textLiteral "user")]]),
    (name "model", .string fixedModel), (name "reasoning_effort", textLiteral "max"),
    (name "stream", .bool false), (name "temperature", decimalDocument '1' ['0']),
    (name "thinking", .object [(name "clear_thinking", .bool false),
      (name "type", textLiteral "enabled")]),
    (name "top_p", decimalDocument '0' ['9', '5'])]

/-- `approval_manifest`. -/
def approvalManifest (config : GlmConfig) (task : GlmTask) (payload : Document) :
    List (Text × Document) :=
  [(name "approval_schema", naturalDocument 3),
    (name "delegation_class", textLiteral task.delegationClass.value),
    (name "endpoint", .string endpoint),
    (name "max_context_tokens", optionalDocument naturalDocument task.constraints.maxContextTokens),
    (name "max_cost_usd", .number task.constraints.maxCostUsd.numeral),
    (name "max_latency_s", .number task.constraints.maxLatencyS.numeral),
    (name "max_output_tokens", naturalDocument task.constraints.maxOutputTokens),
    (name "model", .string fixedModel),
    (name "model_token_policy_digest", .string config.tokenPolicyDigest),
    (name "pricing_basis_version", textLiteral pricingBasisVersion),
    (name "privacy", textLiteral task.constraints.privacy.value),
    (name "provider_id", textLiteral "glm_flash_worker"),
    (name "provider_tier_binding_digest", .string config.tierBindingDigest),
    (name "request_payload", payload), (name "task_id", .string task.taskId),
    (name "task_type", .string task.taskType)]

/-- What `_prepare` returns, up to what is only reported. -/
structure Prepared where
  /-- `system_text`. -/
  systemText : Text
  /-- `user_text`. -/
  userText : Text
  /-- `approval_sha256`. -/
  approvalSha256 : Digest
  /-- `cost_ceiling`. -/
  costCeiling : ℚ
  /-- `request_payload`. -/
  payload : Document

/-- `_prepare`. -/
def prepare (sha256 : Text → Digest) (marker : Text → Bool) (config : GlmConfig) (task : GlmTask) :
    Except MacrError Prepared := do
  validateTaskConsistency task.policyClauses
  checkTaskPolicy config task
  let sent ← delegationEnvelope marker config task
  let systemText := compileWorkerInstruction task.returnContract
  let userText := dumps sent
  let costCeiling ← checkConservativeBudget task.constraints systemText userText
  let payload := requestPayload systemText userText task.constraints.maxOutputTokens
  let signed := dumps (.object (approvalManifest config task payload))
  raiseIf (signed.all isScalar = false) (.other "UnicodeEncodeError")
  return ⟨systemText, userText, sha256 signed, costCeiling, payload⟩

/-- What is looked up on the way to the network. -/
structure GlmSurroundings where
  /-- The inspection of an approval, and the checks of its record. -/
  inspected : Digest → Except MacrError Unit
  /-- The admission: the kernel, the permit, the transport binding and the beginning. -/
  admitted : Except MacrError Unit
  /-- `_api_key`. -/
  apiKey : Except MacrError Text
  /-- The verification of an approval under a key. -/
  verified : Digest → Text → Except MacrError Unit

/-- The call of `post_json`. -/
structure Post where
  /-- `url`. -/
  endpoint : Text
  /-- The key of the `Authorization` header. -/
  apiKey : Text
  /-- `payload`. -/
  payload : Document
  /-- `timeout_s`. -/
  timeoutS : Amount

/-- `_validate_approval_prepared`. -/
def validateApprovalPrepared (sha256 : Text → Digest) (marker : Text → Bool) (config : GlmConfig)
    (surroundings : GlmSurroundings) (task : GlmTask) : Except MacrError Prepared := do
  let prepared ← prepare sha256 marker config task
  raiseIf (task.delegationApprovalSha256 ≠ some prepared.approvalSha256)
    (policyError "GLM delegation approval digest is missing or stale")
  surroundings.inspected prepared.approvalSha256
  return prepared

/-- `_post_validated_task_once` up to the call of `post_json`, with what was prepared. -/
def postValidatedTaskOnce (sha256 : Text → Digest) (marker : Text → Bool) (config : GlmConfig)
    (surroundings : GlmSurroundings) (task : GlmTask) : Except MacrError (Prepared × Post) := do
  let prepared ← validateApprovalPrepared sha256 marker config surroundings task
  surroundings.admitted
  let apiKey ← surroundings.apiKey
  surroundings.verified prepared.approvalSha256 apiKey
  return (prepared, ⟨endpoint, apiKey, prepared.payload, task.constraints.maxLatencyS⟩)

end Macr.Providers.Glm
