import Macr.Lib.Packing
import Macr.Providers.GlmRequest
import Macr.Providers.GlmTruth

/-!
# What GLM sends

A posted payload is the one of the manifest whose digest approves the task, and the digest
determines it with its limits; what it may cost is within the ceiling. Of the texts that are sent,
the goal and the contents of the inputs are scanned for markers; the others are not.
-/

namespace Macr.Providers.Glm

open Lib Lib.JsonText Answers

/-! ## Texts -/

/-- The names of the inputs, as they are sent. -/
def inputLabels (task : GlmTask) : List Text :=
  task.inputs.filterMap fun item => (textOf (field item "name")).map stripText

/-- The contents of the inputs. -/
def inputContents (task : GlmTask) : List Text :=
  task.inputs.filterMap fun item => textOf (field item "content")

/-- The free texts of a task that are sent and not scanned. -/
def unscannedTexts (task : GlmTask) : List Text :=
  inputLabels task ++ task.verificationMethods ++ task.returnContract.exactText.toList ++
    task.returnContract.language.toList ++ task.policyClauses.requiredImports.map (·.module)

/-- The free texts of a task that are sent. -/
def freeTexts (task : GlmTask) : List Text := task.goal :: inputContents task ++ unscannedTexts task

/-- A checked input is the name and the content of its object. -/
theorem validatedTextInput_texts {item : List (Text × Document)} {input : TextInput}
    (validated : validatedTextInput item = .ok input) :
    (textOf (field item "name")).map stripText = some input.label ∧
      textOf (field item "content") = some input.content := by
  simp only [validatedTextInput, Macr.bind_eq_ok, require_eq_ok] at validated
  obtain ⟨_, -, _, -, label, named, content, found, _, -, returned⟩ := validated
  obtain rfl := Except.ok.inj returned
  rw [(Option.filter_eq_some_iff.mp named).1, (safeNonEmptyString_eq_some.mp found).1]
  exact ⟨rfl, rfl⟩

/-- Checked inputs are the names and the contents of their objects. -/
theorem validatedTextInputs_texts {aggregateBytes : Nat} {items : List (List (Text × Document))}
    {inputs : List TextInput} (validated : validatedTextInputs aggregateBytes items = .ok inputs) :
    items.filterMap (fun item => (textOf (field item "name")).map stripText) =
        inputs.map TextInput.label ∧
      items.filterMap (fun item => textOf (field item "content")) =
        inputs.map TextInput.content := by
  induction items generalizing aggregateBytes inputs with
  | nil =>
    obtain rfl := Except.ok.inj validated
    exact ⟨rfl, rfl⟩
  | cons item rest ih =>
    simp only [validatedTextInputs, Macr.bind_eq_ok] at validated
    obtain ⟨input, first, _, -, others, later, returned⟩ := validated
    obtain rfl := Except.ok.inj returned
    obtain ⟨labels, contents⟩ := ih later
    obtain ⟨label, content⟩ := validatedTextInput_texts first
    constructor
    · rw [List.filterMap_cons_some (f := fun item => (textOf (field item "name")).map stripText)
        label, labels]
      rfl
    · rw [List.filterMap_cons_some (f := fun item => textOf (field item "content")) content,
        contents]
      rfl

/-! ## Documents -/

/-- Objects whose keys differ are written when their values are. -/
theorem writable_members {members : List (Text × Document)} (distinct : (members.map (·.1)).Nodup)
    (each : (members.map (·.2)).Forall Writable) : Writable (.object members) :=
  .object distinct fun pair member =>
    List.forall_iff_forall_mem.mp each pair.2 (List.mem_map_of_mem member)

/-- A natural number is written. -/
theorem writable_natural (number : Nat) : Writable (naturalDocument number) :=
  .number (natural_formed number)

/-- A value that may be missing is written. -/
theorem writable_optional {α : Type} {write : α → Document} (each : ∀ value, Writable (write value))
    (value : Option α) : Writable (optionalDocument write value) := by
  cases value with
  | none => exact .null
  | some value => exact each value

/-- A message of a payload is written. -/
theorem writable_message (text : Text) (role : String) :
    Writable (.object [(name "content", .string text), (name "role", textLiteral role)]) :=
  writable_members (by simp only [List.map_cons, List.map_nil]; decide) ⟨.string text, .string _⟩

/-- A decimal number of digits is written. -/
theorem writable_decimal {digit : Char} {fraction : List Char}
    (digits : isDigit (code digit) = true) (more : Digits (codes fraction)) :
    Writable (decimalDocument digit fraction) := by
  refine .number ⟨⟨⟨List.cons_ne_nil _ _, ?_⟩, fun zero => ?_⟩, ?_, nofun⟩
  · simpa using digits
  · exact congrArg (· :: []) (Option.some.inj zero)
  · rintro _ ⟨⟩
    exact more

/-- A payload is written. -/
theorem writable_payload (systemText userText : Text) (maxOutputTokens : Nat) :
    Writable (requestPayload systemText userText maxOutputTokens) := by
  have thinking : Writable (.object [(name "clear_thinking", .bool false),
      (name "type", textLiteral "enabled")]) :=
    writable_members (by simp only [List.map_cons, List.map_nil]; decide) ⟨.bool _, .string _⟩
  refine writable_members (by simp only [List.map_cons, List.map_nil]; decide)
    ⟨writable_natural _, .array ?_, .string _, .string _, .bool _,
      writable_decimal (by decide) ⟨by decide, by decide⟩, thinking,
      writable_decimal (by decide) ⟨by decide, by decide⟩⟩
  simp [writable_message]

/-- A manifest is written when its payload is. -/
theorem writable_manifest (config : GlmConfig) (task : GlmTask) {payload : Document}
    (writable : Writable payload) : Writable (.object (approvalManifest config task payload)) :=
  writable_members (by simp only [approvalManifest, List.map_cons, List.map_nil]; decide)
    ⟨writable_natural _, .string _, .string _, writable_optional writable_natural _,
      .number task.constraints.maxCostUsd.formed, .number task.constraints.maxLatencyS.formed,
      writable_natural _, .string _, .string _, .string _, .string _, .string _, .string _,
      writable, .string _, .string _⟩

/-- A missing number is written in one way. -/
theorem optionalNatural_injective :
    Function.Injective (optionalDocument naturalDocument) := by
  intro left right same
  cases left <;> cases right
  · rfl
  · cases same
  · cases same
  · exact congrArg some (natural_injective (Document.number.inj same))

/-- Manifests that are the same have the same payload and limits. -/
theorem approvalManifest_inj {config config' : GlmConfig} {task task' : GlmTask}
    {payload payload' : Document}
    (same : approvalManifest config task payload = approvalManifest config' task' payload') :
    payload = payload' ∧
      task.constraints.maxCostUsd.numeral = task'.constraints.maxCostUsd.numeral ∧
      task.constraints.maxLatencyS.numeral = task'.constraints.maxLatencyS.numeral ∧
      task.constraints.maxOutputTokens = task'.constraints.maxOutputTokens ∧
      task.constraints.maxContextTokens = task'.constraints.maxContextTokens := by
  simp only [approvalManifest, List.cons.injEq, Prod.mk.injEq, true_and, and_true,
    Document.number.injEq, naturalDocument] at same
  obtain ⟨-, context, cost, latency, output, -, -, -, payload, -⟩ := same
  exact ⟨payload, cost, latency, natural_injective output, optionalNatural_injective context⟩

/-! ## Reaching the network -/

variable {sha256 : Text → Digest} {marker : Text → Bool} {config : GlmConfig}
  {surroundings : GlmSurroundings} {task : GlmTask} {prepared : Prepared} {post : Post}

/-- What a prepared task is made of. -/
structure Prepares (sha256 : Text → Digest) (marker : Text → Bool) (config : GlmConfig)
    (task : GlmTask) (prepared : Prepared) : Prop where
  /-- The goal is scanned. -/
  goal : marker task.goal = false
  /-- So are the contents of the inputs. -/
  contents : ∀ content ∈ inputContents task, marker content = false
  /-- The payload. -/
  payload : prepared.payload = requestPayload prepared.systemText prepared.userText
    task.constraints.maxOutputTokens
  /-- The digest of the manifest. -/
  digest : prepared.approvalSha256 =
    sha256 (dumps (.object (approvalManifest config task prepared.payload)))
  /-- The ceiling. -/
  ceiling : prepared.costCeiling = estimatedCost
    (utf8Length prepared.systemText + utf8Length prepared.userText + 512)
    task.constraints.maxOutputTokens listInputUsdPerM listOutputUsdPerM
  /-- It is within the budget. -/
  affordable : prepared.costCeiling ≤ task.constraints.maxCostUsd.value

/-- A budget that is checked covers the ceiling. -/
theorem checkConservativeBudget_eq_ok {constraints : GlmConstraints} {systemText userText : Text}
    {costCeiling : ℚ}
    (checked : checkConservativeBudget constraints systemText userText = .ok costCeiling) :
    costCeiling = estimatedCost (utf8Length systemText + utf8Length userText + 512)
        constraints.maxOutputTokens listInputUsdPerM listOutputUsdPerM ∧
      costCeiling ≤ constraints.maxCostUsd.value := by
  simp only [checkConservativeBudget, Macr.bind_eq_ok, raiseIf_eq_ok] at checked
  obtain ⟨_, -, _, -, _, within, returned⟩ := checked
  obtain rfl := Except.ok.inj returned
  exact ⟨rfl, not_lt.mp within⟩

/-- An envelope is made of a task whose goal and contents carry no marker. -/
theorem delegationEnvelope_scanned {sent : Document}
    (enveloped : delegationEnvelope marker config task = .ok sent) :
    marker task.goal = false ∧ ∀ content ∈ inputContents task, marker content = false := by
  simp only [delegationEnvelope, Macr.bind_eq_ok] at enveloped
  obtain ⟨inputs, validated, _, clean, -⟩ := enveloped
  have unmarked := raiseIf_eq_ok.mp clean
  refine ⟨Bool.not_eq_true _ |>.mp fun marked => unmarked (.inl marked), fun content member => ?_⟩
  unfold inputContents at member
  rw [(validatedTextInputs_texts validated).2] at member
  obtain ⟨input, found, rfl⟩ := List.mem_map.mp member
  exact Bool.not_eq_true _ |>.mp fun marked => unmarked (.inr ⟨input, found, marked⟩)

/-- A task that is prepared is made of these parts. -/
theorem prepares_of_ok (done : prepare sha256 marker config task = .ok prepared) :
    Prepares sha256 marker config task prepared := by
  simp only [prepare, Macr.bind_eq_ok] at done
  obtain ⟨_, -, _, -, sent, enveloped, costCeiling, checked, _, -, returned⟩ := done
  obtain rfl := Except.ok.inj returned
  obtain ⟨goal, contents⟩ := delegationEnvelope_scanned enveloped
  obtain ⟨ceiling, affordable⟩ := checkConservativeBudget_eq_ok checked
  exact ⟨goal, contents, rfl, rfl, ceiling, affordable⟩

/-- The approval of a task is no part of what is prepared. -/
theorem prepare_approval (task : GlmTask) (approval : Option Digest) :
    prepare sha256 marker config { task with delegationApprovalSha256 := approval } =
      prepare sha256 marker config task := rfl

/-- A task that reaches the network is prepared, approved and posted. -/
theorem post_eq_ok :
    postValidatedTaskOnce sha256 marker config surroundings task = .ok (prepared, post) ↔
      prepare sha256 marker config task = .ok prepared ∧
      task.delegationApprovalSha256 = some prepared.approvalSha256 ∧
      surroundings.inspected prepared.approvalSha256 = .ok () ∧ surroundings.admitted = .ok () ∧
      ∃ apiKey, surroundings.apiKey = .ok apiKey ∧
        surroundings.verified prepared.approvalSha256 apiKey = .ok () ∧
        post = ⟨endpoint, apiKey, prepared.payload, task.constraints.maxLatencyS⟩ := by
  simp only [postValidatedTaskOnce, validateApprovalPrepared, Macr.bind_eq_ok, raiseIf_eq_ok,
    exists_const, ne_eq, not_not]
  constructor
  · rintro ⟨_, ⟨_, done, approved, _, inspected, returned⟩, _, admitted, apiKey, key, _, verified,
      posted⟩
    obtain rfl := Except.ok.inj returned
    obtain ⟨rfl, rfl⟩ := Prod.mk.inj (Except.ok.inj posted)
    exact ⟨done, approved, inspected, admitted, apiKey, key, verified, rfl⟩
  · rintro ⟨done, approved, inspected, admitted, apiKey, key, verified, rfl⟩
    exact ⟨prepared, ⟨prepared, done, approved, (), inspected, rfl⟩, (), admitted, apiKey, key, (),
      verified, rfl⟩

/-! ## Responses -/

/-- A document that was observed counts within a float. -/
theorem countable_of_observed {members : List (Text × Document)} {elapsedMs : Nat}
    {observation : Observation} (observed : observeResponse members elapsedMs = .ok observation) :
    Countable members := by
  intro prompt completion counts
  obtain ⟨read, written⟩ := counts_iff.mp counts
  simp only [observeResponse, Macr.bind_eq_ok] at observed
  obtain ⟨cost, priced, -⟩ := observed
  rw [read, written] at priced
  by_contra large
  rw [estimatedCostOf, if_neg large] at priced
  cases priced

/-- A higher count costs more. -/
theorem estimatedCost_mono {prompt prompt' completion completion' : Nat} {inputRate outputRate : ℚ}
    (input : 0 ≤ inputRate) (output : 0 ≤ outputRate) (more : prompt ≤ prompt')
    (more' : completion ≤ completion') :
    estimatedCost prompt completion inputRate outputRate ≤
      estimatedCost prompt' completion' inputRate outputRate := by
  unfold estimatedCost
  have first : (prompt : ℚ) * inputRate ≤ prompt' * inputRate :=
    mul_le_mul_of_nonneg_right (Nat.cast_le.mpr more) input
  have second : (completion : ℚ) * outputRate ≤ completion' * outputRate :=
    mul_le_mul_of_nonneg_right (Nat.cast_le.mpr more') output
  exact div_le_div_of_nonneg_right (add_le_add first second) (by norm_num)

/-- What an accepted response costs at most. -/
theorem accepted_cost {budget : GlmBudget} {members : List (Text × Document)} {elapsedMs : Nat}
    {observation : Observation} {result : GlmResult}
    (observed : observeResponse members elapsedMs = .ok observation)
    (validated : validateObservation budget members observation = .ok result) {limit : Nat}
    (read : ∀ prompt ∈ observation.usage.inputTokens, prompt ≤ limit) :
    ∀ cost ∈ observation.currencyCostUsd, cost ≤ estimatedCost limit budget.maxOutputTokens
      listInputUsdPerM listOutputUsdPerM := by
  obtain ⟨other, again, observes⟩ := @exists_observeResponse _ elapsedMs
    (countable_of_observed observed)
  obtain rfl := Except.ok.inj (observed.symm.trans again)
  simp only [validateObservation, Macr.bind_eq_ok] at validated
  obtain ⟨_, -, _, used, -⟩ := validated
  obtain ⟨-, prompt, completion, counts, -, bound⟩ := (validateUsage_eq_ok observes).mp used
  have promptBound := read prompt (by rw [observes.input]; exact (counts_iff.mp counts).1)
  rw [observes.cost prompt completion counts]
  rintro _ ⟨⟩
  exact estimatedCost_mono (by norm_num [listInputUsdPerM]) (by norm_num [listOutputUsdPerM])
    promptBound bound

/-! ## What is sent -/

/-- What is sent was approved, carries no marker, and can be paid. -/
structure SendsApproved (sha256 : Text → Digest) (marker : Text → Bool) (config : GlmConfig)
    (task : GlmTask) (prepared : Prepared) (post : Post) : Prop where
  /-- The payload is the one of the manifest whose digest approves the task. -/
  approved : ∃ manifest, task.delegationApprovalSha256 = some (sha256 (dumps (.object manifest))) ∧
    field manifest "request_payload" = some post.payload
  /-- The digest determines the payload and the limits. -/
  determined : ∀ config' surroundings' task' prepared' post',
    postValidatedTaskOnce sha256 marker config' surroundings' task' = .ok (prepared', post') →
    task'.delegationApprovalSha256 = task.delegationApprovalSha256 →
    post'.payload = post.payload ∧ post'.timeoutS.numeral = post.timeoutS.numeral ∧
      task'.constraints.maxCostUsd.numeral = task.constraints.maxCostUsd.numeral ∧
      task'.constraints.maxOutputTokens = task.constraints.maxOutputTokens ∧
      task'.constraints.maxContextTokens = task.constraints.maxContextTokens
  /-- No free text that is sent carries a marker. -/
  scanned : ∀ text ∈ freeTexts task, marker text = false
  /-- An accepted response that reads no more than the ceiling allows is within it. -/
  priced : ∀ members elapsedMs observation result,
    observeResponse members elapsedMs = .ok observation →
    validateObservation ⟨task.constraints.maxOutputTokens, task.constraints.maxCostUsd.value⟩
      members observation = .ok result →
    (∀ prompt ∈ observation.usage.inputTokens,
      prompt ≤ utf8Length prepared.systemText + utf8Length prepared.userText + 512) →
    ∀ cost ∈ observation.currencyCostUsd,
      cost ≤ prepared.costCeiling ∧ cost ≤ task.constraints.maxCostUsd.value

/-- Tasks that are approved under one digest post one payload under one set of limits. -/
theorem determined_of_posted (injective : Function.Injective sha256)
    (reached : postValidatedTaskOnce sha256 marker config surroundings task = .ok (prepared, post))
    {config' : GlmConfig} {surroundings' : GlmSurroundings} {task' : GlmTask}
    {prepared' : Prepared} {post' : Post}
    (reached' : postValidatedTaskOnce sha256 marker config' surroundings' task' =
      .ok (prepared', post'))
    (same : task'.delegationApprovalSha256 = task.delegationApprovalSha256) :
    post'.payload = post.payload ∧ post'.timeoutS.numeral = post.timeoutS.numeral ∧
      task'.constraints.maxCostUsd.numeral = task.constraints.maxCostUsd.numeral ∧
      task'.constraints.maxOutputTokens = task.constraints.maxOutputTokens ∧
      task'.constraints.maxContextTokens = task.constraints.maxContextTokens := by
  obtain ⟨done, approved, -, -, _, -, -, rfl⟩ := post_eq_ok.mp reached
  obtain ⟨done', approved', -, -, _, -, -, rfl⟩ := post_eq_ok.mp reached'
  have prepares := prepares_of_ok done
  have prepares' := prepares_of_ok done'
  have digests := Option.some.inj (approved'.symm.trans (same.trans approved))
  rw [prepares.digest, prepares'.digest] at digests
  have writable : ∀ {config task prepared}, Prepares sha256 marker config task prepared →
      Writable (.object (approvalManifest config task prepared.payload)) := fun prepares =>
    writable_manifest _ _ (prepares.payload ▸ writable_payload _ _ _)
  have manifests := dumps_injective (writable prepares') (writable prepares) (injective digests)
  obtain ⟨payload, cost, latency, output, context⟩ :=
    approvalManifest_inj (Document.object.inj manifests)
  exact ⟨payload, latency, cost, output, context⟩

/-- What is sent is approved, scanned and affordable exactly where the texts that are not scanned
carry no marker. -/
theorem sends_approved_iff (injective : Function.Injective sha256)
    (reached : postValidatedTaskOnce sha256 marker config surroundings task =
      .ok (prepared, post)) :
    SendsApproved sha256 marker config task prepared post ↔
      ∀ text ∈ unscannedTexts task, marker text = false := by
  constructor
  · intro sends text member
    exact sends.scanned text (List.mem_append_right _ member)
  · intro unmarked
    have posted := post_eq_ok.mp reached
    obtain ⟨done, approval, -, -, apiKey, -, -, rfl⟩ := posted
    have prepares := prepares_of_ok done
    constructor
    · refine ⟨approvalManifest config task prepared.payload, ?_, rfl⟩
      rw [approval, prepares.digest]
    · intro _ _ _ _ _ reached' same
      exact determined_of_posted injective reached reached' same
    · intro text member
      rcases List.mem_append.mp member with scanned | unscanned
      · rcases List.mem_cons.mp scanned with rfl | content
        · exact prepares.goal
        · exact prepares.contents text content
      · exact unmarked text unscanned
    · intro members elapsedMs observation result observed validated read cost found
      have within := accepted_cost observed validated read cost found
      rw [← prepares.ceiling] at within
      exact ⟨within, within.trans prepares.affordable⟩

/-! ## A method of verification with a marker -/

/-- An assignment of a key. -/
private def keyText : Text := name "api_key = x"

/-- The marker of that text alone. -/
private def keyMarker (text : Text) : Bool := text = keyText

/-- A contract for free text. -/
private def freeContract : Answers.ReturnContract where
  summary := true
  patch := false
  evidence := true
  format := .freeText
  exactText := none
  language := none
  exactText_bounded := Answers.objectContract.exactText_bounded
  exactText_iff := by decide
  language_iff := by decide
  alone := by decide

/-- One unit of an amount. -/
private def oneUnit : Amount := ⟨natural 1, natural_formed 1⟩

/-- A routine task with one input, whose method of verification is an assignment of a key. -/
private def keyTask : GlmTask where
  taskId := name "task-1"
  goal := name "Sort the list."
  taskType := name "delegated_routine"
  writeScope := []
  inputs := [[(name "type", textLiteral "text"), (name "name", textLiteral "list"),
    (name "content", textLiteral "3 1 2")]]
  constraints := ⟨oneUnit, oneUnit, 65536, none, true, .publicLevel⟩
  requiredCapabilities := [name "text_generation"]
  verificationRequired := true
  verificationMethods := [keyText]
  returnContract := freeContract
  delegable := true
  delegationClass := .nonSensitiveRoutine
  delegationApprovalSha256 := none
  policyClauses := ⟨.unspecified, [], .unspecified, .unchanged⟩

/-- The standard policies. -/
private def standardConfig : GlmConfig where
  enabled := true
  apiUsageAllowed := true
  apiKeyFileAuth := true
  approvedPrivacy := ["public", "internal_approved"]
  delegationClass := "non_sensitive_routine"
  allowedTaskTypes := [name "delegated_routine", name "provider_conformance"]
  tierPrivacy := ["internal_approved", "public"]
  requiredCapabilities := [name "text_generation"]
  maxLatencyS := 300
  patchAllowed := false
  writeScopeAllowed := false
  verificationRequired := true
  tierBindingDigest := name "tier"
  minimumTaskOutputTokens := 16384
  maxOutputTokens := 131072
  hardContextTokens := 200000
  tokenPolicyDigest := name "policy"

/-- Surroundings that allow everything. -/
private def openSurroundings : GlmSurroundings :=
  ⟨fun _ => .ok (), .ok (), .ok (name "id.secret"), fun _ _ => .ok ()⟩

/-- The text of its user message. -/
private def keyUserText : Text :=
  dumps (envelope standardConfig keyTask [⟨name "list", name "3 1 2"⟩])

/-- Its payload. -/
private def keyPayload : Document :=
  requestPayload (compileWorkerInstruction freeContract) keyUserText 65536

/-- The text of its manifest. -/
private def keyManifestText : Text :=
  dumps (.object (approvalManifest standardConfig keyTask keyPayload))

/-- The ceiling of its cost. -/
private def keyCeiling : ℚ :=
  estimatedCost (utf8Length (compileWorkerInstruction freeContract) + utf8Length keyUserText + 512)
    65536 listInputUsdPerM listOutputUsdPerM

/-- What is prepared of the task. -/
private def keyPrepared : Prepared :=
  ⟨compileWorkerInstruction freeContract, keyUserText, packAll keyManifestText, keyCeiling,
    keyPayload⟩

/-- The task is prepared so. -/
private theorem keyTask_prepared :
    prepare packAll keyMarker standardConfig keyTask = .ok keyPrepared := by
  have consistent : validateTaskConsistency keyTask.policyClauses = .ok () := by decide
  have policy : checkTaskPolicy standardConfig keyTask = .ok () := by decide +kernel
  have inputs : validatedTextInputs 0 keyTask.inputs = .ok [⟨name "list", name "3 1 2"⟩] := by
    decide +kernel
  have clean : ¬(keyMarker keyTask.goal = true ∨ ∃ input ∈ [(⟨name "list", name "3 1 2"⟩ :
      TextInput)], keyMarker input.content = true) := by
    decide +kernel
  have enveloped : delegationEnvelope keyMarker standardConfig keyTask =
      .ok (envelope standardConfig keyTask [⟨name "list", name "3 1 2"⟩]) :=
    Macr.bind_eq_ok.mpr ⟨_, inputs, Macr.bind_eq_ok.mpr ⟨(), raiseIf_eq_ok.mpr clean, rfl⟩⟩
  have budget : checkConservativeBudget keyTask.constraints
      (compileWorkerInstruction freeContract) keyUserText = .ok keyCeiling := by
    decide +kernel
  have scalar : ¬keyManifestText.all isScalar = false := by decide +kernel
  unfold prepare
  refine Macr.bind_eq_ok.mpr ⟨(), consistent, Macr.bind_eq_ok.mpr ⟨(), policy,
    Macr.bind_eq_ok.mpr ⟨_, enveloped, Macr.bind_eq_ok.mpr ⟨keyCeiling, budget,
      Macr.bind_eq_ok.mpr ⟨(), raiseIf_eq_ok.mpr scalar, rfl⟩⟩⟩⟩⟩

/-- The task, approved. -/
private def approvedTask : GlmTask :=
  { keyTask with delegationApprovalSha256 := some keyPrepared.approvalSha256 }

/-- What is posted of it. -/
private def keyPost : Post := ⟨endpoint, name "id.secret", keyPrepared.payload, oneUnit⟩

/-- It reaches the network. -/
private theorem approvedTask_posted : postValidatedTaskOnce packAll keyMarker standardConfig
    openSurroundings approvedTask = .ok (keyPrepared, keyPost) :=
  post_eq_ok.mpr ⟨(prepare_approval keyTask _).trans keyTask_prepared, rfl, rfl, rfl, name "id.secret", rfl, rfl, rfl⟩

/-- The approved task is sent as it should be exactly where its other texts carry no marker. -/
theorem approvedTask_sends :
    SendsApproved packAll keyMarker standardConfig approvedTask keyPrepared keyPost ↔
      ∀ text ∈ unscannedTexts approvedTask, keyMarker text = false :=
  sends_approved_iff packAll_injective approvedTask_posted

/-- Its method of verification is sent with the marker. -/
theorem sends_marker : ¬∀ sha256 marker config surroundings task prepared post,
    Function.Injective sha256 →
    postValidatedTaskOnce sha256 marker config surroundings task = .ok (prepared, post) →
    SendsApproved sha256 marker config task prepared post := by
  intro sends
  have scanned := (sends _ _ _ _ _ _ _ packAll_injective approvedTask_posted).scanned keyText
  have sent : keyText ∈ freeTexts approvedTask := by decide +kernel
  have marked : keyMarker keyText = true := by decide
  rw [scanned sent] at marked
  cases marked

end Macr.Providers.Glm
