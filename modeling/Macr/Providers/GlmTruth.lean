import Macr.ErrorClasses
import Macr.Providers.GlmResponse

/-!
# What becomes of a GLM response

A response whose token counts a float holds is always made an execution: the bytes of a single
answer are captured whatever else is wrong, and a success is exactly what the checks list. The
details of the usage are among them.
-/

namespace Macr.Providers.Glm

open Lib Lib.JsonText Answers

/-! ## Documents -/

/-- The only choice has a message with this content. -/
def SingleAnswer (members : List (Text × Document)) (content : Text) : Prop :=
  ∃ choice message, field members "choices" = some (.array [.object choice]) ∧
    field choice "message" = some (.object message) ∧
    field message "content" = some (.string content)

/-- No search of the web is told. -/
def NoWebSearch (value : Option Document) : Prop :=
  Absent value ∨ value = some (.object []) ∨ value = some (.array [])

/-- The only choice stopped at this text and called no tool. -/
def StoppedAt (members : List (Text × Document)) (answer : Text) : Prop :=
  ∃ choice message, field members "choices" = some (.array [.object choice]) ∧
    field choice "finish_reason" = some (.string (name "stop")) ∧
    field choice "message" = some (.object message) ∧
    field message "content" = some (.string answer) ∧ isBlankText answer = false ∧
    (Absent (field message "tool_calls") ∨ field message "tool_calls" = some (.array []))

/-- The token counts of a usage. -/
structure Counts (members : List (Text × Document)) (prompt completion : Nat) : Prop where
  /-- `prompt_tokens`. -/
  prompt : IsCount (fieldOf (field members "usage") "prompt_tokens") prompt
  /-- `completion_tokens`. -/
  completion : IsCount (fieldOf (field members "usage") "completion_tokens") completion

/-- The conditions of a success, up to the details of the usage. -/
structure Listed (budget : GlmBudget) (members : List (Text × Document)) (answer : Text) : Prop where
  /-- No metadata of a search. -/
  webSearch : NoWebSearch (field members "web_search")
  /-- The requested model. -/
  model : field members "model" = some (.string fixedModel)
  /-- The only choice. -/
  choice : StoppedAt members answer
  /-- The id. -/
  responseId : Absent (field members "id") ∨ ∃ text, field members "id" = some (.string text)
  /-- The counts, their total and their price. -/
  usage : ∃ prompt completion, Counts members prompt completion ∧
    IsCount (fieldOf (field members "usage") "total_tokens") (prompt + completion) ∧
    completion ≤ budget.maxOutputTokens ∧
    estimatedCost prompt completion listInputUsdPerM listOutputUsdPerM ≤ budget.maxCostUsd

/-- The details of a usage are absent, or they are an object whose count is left out or a count. -/
def Detail (usage : Option Document) (detailsName fieldName : String) : Prop :=
  Absent (fieldOf usage detailsName) ∨
    ∃ details, fieldOf usage detailsName = some (.object details) ∧
      (field details fieldName = none ∨ ∃ count, IsCount (field details fieldName) count)

/-- The details of both kinds. -/
structure Detailed (members : List (Text × Document)) : Prop where
  /-- The tokens that were cached. -/
  cached : Detail (field members "usage") "prompt_tokens_details" "cached_tokens"
  /-- The tokens of the reasoning. -/
  reasoning : Detail (field members "usage") "completion_tokens_details" "reasoning_tokens"

/-- A float holds the counts, if both are there. -/
def Countable (members : List (Text × Document)) : Prop :=
  ∀ prompt completion, Counts members prompt completion →
    isFloat prompt = true ∧ isFloat completion = true

/-- A safe count is there when the value is one. -/
theorem safeNonNegativeInt_eq_some {value : Option Document} {count : Nat} :
    safeNonNegativeInt value = some count ↔ IsCount value count := by
  constructor
  · intro read
    unfold safeNonNegativeInt at read
    split at read
    · rename_i number
      split at read
      case isTrue fits =>
        obtain rfl := Option.some.inj read
        exact ⟨number, rfl, fits.1, (Int.toNat_of_nonneg fits.2).symm⟩
      case isFalse => cases read
    · cases read
  · rintro ⟨number, rfl, integer, same⟩
    unfold safeNonNegativeInt
    dsimp only
    rw [if_pos ⟨integer, by rw [same]; exact Int.natCast_nonneg count⟩, same, Int.toNat_natCast]

/-- A safe string is there when the value is one. -/
theorem safeNonEmptyString_eq_some {value : Option Document} {text : Text} :
    safeNonEmptyString value = some text ↔
      value = some (.string text) ∧ isBlankText text = false := by
  constructor
  · intro read
    unfold safeNonEmptyString at read
    split at read
    · rename_i given
      cases blank : isBlankText given with
      | true => simp [blank] at read
      | false =>
        rw [blank] at read
        obtain rfl := Option.some.inj read
        exact ⟨rfl, blank⟩
    · cases read
  · rintro ⟨rfl, blank⟩
    simp [safeNonEmptyString, blank]

/-- A safe string is not blank. -/
theorem safeNonEmptyString_not_blank {value : Option Document} :
    ∀ text ∈ safeNonEmptyString value, isBlankText text = false :=
  fun _ found => (safeNonEmptyString_eq_some.mp found).2

/-- A key is there when the value is an object that has it. -/
theorem fieldOf_eq_some {value : Option Document} {key : String} {found : Document} :
    fieldOf value key = some found ↔
      ∃ members, value = some (.object members) ∧ field members key = some found := by
  unfold fieldOf
  split
  · simp
  · rename_i other
    simp only [reduceCtorEq, false_iff, not_exists, not_and]
    intro members given
    exact absurd given (other members)

/-- The only item is there when the array has no other. -/
theorem onlyItem_eq_some {value : Option Document} {item : Document} :
    onlyItem value = some item ↔ value = some (.array [item]) := by
  unfold onlyItem
  split
  · simp
  · rename_i other
    simp only [reduceCtorEq, false_iff]
    exact other item

/-- The content of a single answer. -/
theorem contentOf_eq_some {members : List (Text × Document)} {content : Text} :
    contentOf members = some (.string content) ↔ SingleAnswer members content := by
  simp only [contentOf, fieldOf_eq_some, onlyItem_eq_some]
  constructor
  · rintro ⟨message, ⟨choice, only, given⟩, found⟩
    exact ⟨choice, message, only, given, found⟩
  · rintro ⟨choice, message, only, given, found⟩
    exact ⟨message, ⟨choice, only, given⟩, found⟩

/-- A detail is counted when it fits. -/
theorem exists_safeUsageDetail {usage : Option Document} {detailsName fieldName : String} :
    (∃ count, safeUsageDetail usage detailsName fieldName = some count) ↔
      (∃ members, usage = some (.object members)) ∧ Detail usage detailsName fieldName := by
  constructor
  · rintro ⟨count, read⟩
    unfold safeUsageDetail at read
    split at read
    case h_2 => cases read
    case h_1 members =>
      refine ⟨⟨members, rfl⟩, ?_⟩
      split at read
      · rename_i missing
        exact .inl (.inl missing)
      · rename_i null
        exact .inl (.inr null)
      · rename_i details given
        refine .inr ⟨details, given, ?_⟩
        split at read
        · rename_i missing
          exact .inl missing
        · exact .inr ⟨count, safeNonNegativeInt_eq_some.mp read⟩
      · cases read
  · rintro ⟨⟨members, rfl⟩, fits⟩
    unfold safeUsageDetail
    dsimp only
    rcases fits with (missing | null) | ⟨details, given, missing | ⟨count, counts⟩⟩
    · exact ⟨0, by rw [show field members detailsName = none from missing]⟩
    · exact ⟨0, by rw [show field members detailsName = some .null from null]⟩
    · exact ⟨0, by
        rw [show field members detailsName = some (.object details) from given]; dsimp only
        rw [missing]⟩
    · refine ⟨count, ?_⟩
      rw [show field members detailsName = some (.object details) from given]
      have read := safeNonNegativeInt_eq_some.mpr counts
      dsimp only
      split
      · rename_i missing
        rw [missing] at read
        cases read
      · exact read

/-! ## Observation -/

/-- What an observation keeps of its document. -/
structure Observes (members : List (Text × Document)) (observation : Observation) : Prop where
  /-- Tokens read. -/
  input : observation.usage.inputTokens =
    safeNonNegativeInt (fieldOf (field members "usage") "prompt_tokens")
  /-- Tokens written. -/
  output : observation.usage.outputTokens =
    safeNonNegativeInt (fieldOf (field members "usage") "completion_tokens")
  /-- Tokens of the reasoning. -/
  reasoning : observation.usage.reasoningTokens =
    safeUsageDetail (field members "usage") "completion_tokens_details" "reasoning_tokens"
  /-- Tokens that were cached. -/
  cached : observation.usage.cachedTokens =
    safeUsageDetail (field members "usage") "prompt_tokens_details" "cached_tokens"
  /-- The list price. -/
  cost : ∀ prompt completion, Counts members prompt completion → observation.currencyCostUsd =
    some (estimatedCost prompt completion listInputUsdPerM listOutputUsdPerM)
  /-- The answer. -/
  answer : observation.answerBytes = answerBytesOf (contentOf members)

variable {budget : GlmBudget} {members : List (Text × Document)} {elapsedMs : Nat}
  {observation : Observation} {prompt completion : Nat}

/-- The counts are those that are read. -/
theorem counts_iff : Counts members prompt completion ↔
    safeNonNegativeInt (fieldOf (field members "usage") "prompt_tokens") = some prompt ∧
    safeNonNegativeInt (fieldOf (field members "usage") "completion_tokens") = some completion := by
  rw [safeNonNegativeInt_eq_some, safeNonNegativeInt_eq_some]
  exact ⟨fun counts => ⟨counts.prompt, counts.completion⟩, fun both => ⟨both.1, both.2⟩⟩

/-- A price is not negative. -/
theorem estimatedCost_nonneg {inputRate outputRate : ℚ} (input : 0 ≤ inputRate)
    (output : 0 ≤ outputRate) : 0 ≤ estimatedCost prompt completion inputRate outputRate := by
  have sum : 0 ≤ (prompt : ℚ) * inputRate + completion * outputRate :=
    add_nonneg (mul_nonneg (Nat.cast_nonneg prompt) input)
      (mul_nonneg (Nat.cast_nonneg completion) output)
  exact div_nonneg sum (by norm_num)

/-- Counts that a float holds have a price. -/
theorem exists_estimatedCostOf {read written : Option Nat} {inputRate outputRate : ℚ}
    (held : ∀ prompt completion, read = some prompt → written = some completion →
      isFloat prompt = true ∧ isFloat completion = true) :
    ∃ cost, estimatedCostOf read written inputRate outputRate = .ok cost ∧
      (∀ prompt completion, read = some prompt → written = some completion →
        cost = some (estimatedCost prompt completion inputRate outputRate)) ∧
      ∀ given ∈ cost, ∃ prompt completion,
        given = estimatedCost prompt completion inputRate outputRate := by
  cases read with
  | none => exact ⟨none, rfl, nofun, nofun⟩
  | some prompt =>
    cases written with
    | none => exact ⟨none, rfl, nofun, nofun⟩
    | some completion =>
      refine ⟨some _, if_pos (held prompt completion rfl rfl), ?_, ?_⟩
      · rintro _ _ ⟨⟩ ⟨⟩
        rfl
      · rintro _ ⟨⟩
        exact ⟨prompt, completion, rfl⟩

/-- The telemetry of a response is well formed. -/
theorem received_wellFormed : TransportObservation.WellFormed
    { networkAttempted := some true
      responseReceived := some true
      providerHttpStatus := some 200
      providerErrorCode := none
      transportStage := some "response_received" } := by
  decide

/-- A document whose counts a float holds is observed. -/
theorem exists_observeResponse (countable : Countable members) :
    ∃ observation, observeResponse members elapsedMs = .ok observation ∧
      Observes members observation := by
  obtain ⟨cost, priced, both, made⟩ := @exists_estimatedCostOf _ _
    listInputUsdPerM listOutputUsdPerM
    fun prompt completion read written => countable prompt completion (counts_iff.mpr
      ⟨read, written⟩)
  have positive : ∀ given ∈ cost, 0 ≤ given := by
    intro given found
    obtain ⟨prompt, completion, rfl⟩ := made given found
    exact estimatedCost_nonneg (by norm_num [listInputUsdPerM]) (by norm_num [listOutputUsdPerM])
  unfold observeResponse
  simp only [Macr.bind_eq_ok, mapError_eq_ok, Observation.make_eq_ok, priced,
    Except.ok.injEq, exists_eq_left']
  refine ⟨_, ⟨safeNonEmptyString_not_blank, safeNonEmptyString_not_blank,
    safeNonEmptyString_not_blank, positive, received_wellFormed, rfl⟩, ?_⟩
  exact ⟨rfl, rfl, rfl, rfl, fun prompt completion counts =>
    both prompt completion (counts_iff.mp counts).1 (counts_iff.mp counts).2, rfl⟩

/-! ## Validation -/

/-- No search of the web is told when the check passes. -/
theorem isNoWebSearch_iff {value : Option Document} :
    isNoWebSearch value = true ↔ NoWebSearch value := by
  unfold NoWebSearch Absent
  constructor
  · intro checked
    unfold isNoWebSearch at checked
    split at checked
    · exact .inl (.inl rfl)
    · exact .inl (.inr rfl)
    · exact .inr (.inl rfl)
    · exact .inr (.inr rfl)
    · cases checked
  · rintro ((rfl | rfl) | rfl | rfl) <;> rfl

/-- No tool is called when the check passes. -/
theorem isNoToolCalls_iff {value : Option Document} :
    isNoToolCalls value = true ↔ Absent value ∨ value = some (.array []) := by
  unfold Absent
  constructor
  · intro checked
    unfold isNoToolCalls at checked
    split at checked
    · exact .inl (.inl rfl)
    · exact .inl (.inr rfl)
    · exact .inr rfl
    · cases checked
  · rintro ((rfl | rfl) | rfl) <;> rfl

/-- A value is the text. -/
theorem isText_iff {text : Text} {value : Option Document} :
    isText text value = true ↔ value = some (.string text) := by
  unfold isText
  split
  · simp
  · rename_i other
    simp only [Bool.false_eq_true, false_iff]
    exact other text

/-- A value is an object. -/
theorem isObject_iff {value : Option Document} :
    isObject value = true ↔ ∃ members, value = some (.object members) := by
  unfold isObject
  split
  · simp
  · rename_i other
    simp only [Bool.false_eq_true, false_iff, not_exists]
    exact other

/-- An id that is not odd is absent or a text. -/
theorem isOddId_iff {value : Option Document} :
    isOddId value = false ↔ Absent value ∨ ∃ text, value = some (.string text) := by
  unfold Absent
  constructor
  · intro checked
    unfold isOddId at checked
    split at checked
    · exact .inl (.inl rfl)
    · exact .inl (.inr rfl)
    · exact .inr ⟨_, rfl⟩
    · cases checked
  · rintro ((rfl | rfl) | ⟨text, rfl⟩) <;> rfl

/-- The answer of a document is validated when it stopped there. -/
theorem validateAnswer_eq_ok {answer : Text} :
    validateAnswer members observation = .ok answer ↔
      NoWebSearch (field members "web_search") ∧
      field members "model" = some (.string fixedModel) ∧ StoppedAt members answer := by
  simp only [validateAnswer, Macr.bind_eq_ok, raiseIf_eq_ok, require_eq_ok, exists_const,
    Bool.not_eq_false, isNoWebSearch_iff, isText_iff, onlyItem_eq_some, isObject_iff,
    isNoToolCalls_iff, presentContent, safeNonEmptyString_eq_some, Option.some.injEq]
  constructor
  · rintro ⟨search, model, choice, only, ⟨members', rfl⟩, _, -, stop, content,
      ⟨found, printed⟩, tools, returned⟩
    obtain rfl := Except.ok.inj returned
    obtain ⟨message, given, text⟩ := fieldOf_eq_some.mp found
    refine ⟨search, model, members', message, only, stop, given, text, printed, ?_⟩
    rw [given] at tools
    exact tools
  · rintro ⟨search, model, choice, message, only, stop, given, text, printed, tools⟩
    have carried : fieldOf (some (.object choice)) "message" = some (.object message) := given
    refine ⟨search, model, .object choice, only, ⟨choice, rfl⟩, (), ?_, stop, answer, ?_, ?_, rfl⟩
    · refine raiseIf_eq_ok.mpr ?_
      rintro ⟨length, -, -⟩
      have same := stop.symm.trans (isText_iff.mp length)
      exact absurd (Document.string.inj (Option.some.inj same)) (by decide)
    · rw [carried]
      exact ⟨text, printed⟩
    · rw [carried]
      exact tools

/-- Usage counts are validated when they are there, add up, and keep the bound. -/
theorem validateUsage_eq_ok (observes : Observes members observation) :
    validateUsage budget members observation = .ok () ↔ Detailed members ∧
      ∃ prompt completion, Counts members prompt completion ∧
        IsCount (fieldOf (field members "usage") "total_tokens") (prompt + completion) ∧
        completion ≤ budget.maxOutputTokens := by
  simp only [validateUsage, nonNegativeInt, Macr.bind_eq_ok, raiseIf_eq_ok, require_eq_ok,
    exists_const, Bool.not_eq_false, isObject_iff, observes.input, observes.output,
    observes.reasoning, observes.cached, not_lt, not_not, ne_eq]
  constructor
  · rintro ⟨object, prompt, read, completion, written, bound, total, sum, rfl, cached, held,
      reasoning, thought, -⟩
    exact ⟨⟨(exists_safeUsageDetail.mp ⟨cached, held⟩).2,
      (exists_safeUsageDetail.mp ⟨reasoning, thought⟩).2⟩, prompt, completion,
      counts_iff.mpr ⟨read, written⟩, safeNonNegativeInt_eq_some.mp sum, bound⟩
  · rintro ⟨details, prompt, completion, counts, sum, bound⟩
    obtain ⟨read, written⟩ := counts_iff.mp counts
    have object : ∃ usage, field members "usage" = some (.object usage) := by
      obtain ⟨number, given, -⟩ := counts.prompt
      obtain ⟨usage, found, -⟩ := fieldOf_eq_some.mp given
      exact ⟨usage, found⟩
    obtain ⟨cached, held⟩ := exists_safeUsageDetail.mpr ⟨object, details.cached⟩
    obtain ⟨reasoning, thought⟩ := exists_safeUsageDetail.mpr ⟨object, details.reasoning⟩
    exact ⟨object, prompt, read, completion, written, bound, prompt + completion,
      safeNonNegativeInt_eq_some.mpr sum, rfl, cached, held, reasoning, thought, rfl⟩

/-- A cost is carried when a float holds the counts. -/
theorem exists_costFromObservation (observes : Observes members observation)
    (countable : Countable members) : ∃ cost, costFromObservation members observation = .ok cost := by
  obtain ⟨promotional, priced, -⟩ := @exists_estimatedCostOf _ _
    promotionalInputUsdPerM promotionalOutputUsdPerM
    fun prompt completion read written => countable prompt completion (counts_iff.mpr
      ⟨observes.input ▸ read, observes.output ▸ written⟩)
  exact ⟨_, by unfold costFromObservation; rw [priced]; rfl⟩

/-- A validation refuses with errors of the adapter only. -/
theorem validateObservation_raises (observes : Observes members observation)
    (countable : Countable members) :
    RaisesOnly (fun error => error.isMacrError = true)
      (validateObservation budget members observation) := by
  have protocol : ∀ message, (protocolError message).isMacrError = true := fun _ => rfl
  refine raisesOnly_bind.mpr ⟨?_, fun content _ => raisesOnly_bind.mpr ⟨?_, fun _ used => ?_⟩⟩
  · simp only [validateAnswer, raisesOnly_bind, raisesOnly_raiseIf, raisesOnly_require, protocol,
      implies_true, raisesOnly_pure, and_true, true_and]
    intros
    decide
  · simp only [validateUsage, nonNegativeInt, raisesOnly_bind, raisesOnly_raiseIf,
      raisesOnly_require, protocol, implies_true, raisesOnly_pure, and_true]
  · obtain ⟨-, prompt, completion, counts, -⟩ := (validateUsage_eq_ok observes).mp used
    obtain ⟨cost, carried⟩ := exists_costFromObservation observes countable
    simp only [raisesOnly_bind, raisesOnly_require, observes.cost prompt completion counts,
      raisesOnly_raiseIf, protocol, implies_true, carried, raisesOnly_ok, raisesOnly_pure,
      reduceCtorEq, false_implies, and_true]

/-- A document counts to one prompt and one completion. -/
theorem Counts.unique {prompt' completion' : Nat} (counts : Counts members prompt completion)
    (other : Counts members prompt' completion') : prompt = prompt' ∧ completion = completion' :=
  ⟨counts.prompt.unique other.prompt, counts.completion.unique other.completion⟩

/-- A document has one answer. -/
theorem StoppedAt.unique {answer answer' : Text} (stopped : StoppedAt members answer)
    (other : StoppedAt members answer') : answer = answer' := by
  obtain ⟨choice, message, only, -, given, text, -⟩ := stopped
  obtain ⟨choice', message', only', -, given', text', -⟩ := other
  obtain rfl := Document.object.inj (List.cons.inj (Document.array.inj
    (Option.some.inj (only.symm.trans only')))).1
  obtain rfl := Document.object.inj (Option.some.inj (given.symm.trans given'))
  exact Document.string.inj (Option.some.inj (text.symm.trans text'))

/-- What is listed, with the details, is validated. -/
theorem exists_validateObservation {answer : Text} (observes : Observes members observation)
    (countable : Countable members) (listed : Listed budget members answer)
    (detailed : Detailed members) :
    ∃ result, validateObservation budget members observation = .ok result := by
  obtain ⟨prompt, completion, counts, total, bound, -⟩ := listed.usage
  obtain ⟨cost, carried⟩ := exists_costFromObservation observes countable
  have used := (@validateUsage_eq_ok budget _ _ observes).mpr
    ⟨detailed, prompt, completion, counts, total, bound⟩
  have answered := (@validateAnswer_eq_ok _ observation _).mpr
    ⟨listed.webSearch, listed.model, listed.choice⟩
  have named := isOddId_iff.mpr listed.responseId
  simp only [validateObservation, Macr.bind_eq_ok, raiseIf_eq_ok, require_eq_ok, exists_const]
  exact ⟨_, answer, answered, (), used, _, observes.cost prompt completion counts,
    by rw [named]; exact Bool.false_ne_true, cost, carried, rfl⟩

/-- What is validated is a success exactly when it is listed, with the details. -/
theorem validated_success {result : GlmResult} (observes : Observes members observation)
    (validated : validateObservation budget members observation = .ok result) (answer : Text) :
    result.status = .candidateSuccess ∧ result.answer = answer ↔
      Listed budget members answer ∧ Detailed members := by
  simp only [validateObservation, Macr.bind_eq_ok, raiseIf_eq_ok, require_eq_ok, exists_const,
    validateAnswer_eq_ok] at validated
  obtain ⟨content, ⟨search, model, stopped⟩, _, used, listCost, price, odd, cost, -, returned⟩ :=
    validated
  obtain ⟨detailed, prompt, completion, counts, total, bound⟩ := (validateUsage_eq_ok observes).mp used
  obtain rfl := Option.some.inj ((observes.cost prompt completion counts).symm.trans price)
  obtain rfl := Except.ok.inj returned
  have id := isOddId_iff.mp (Bool.not_eq_true _ |>.mp odd)
  by_cases beyond : budget.maxCostUsd <
      estimatedCost prompt completion listInputUsdPerM listOutputUsdPerM
  · refine iff_of_false ?_ ?_
    · rintro ⟨success, -⟩
      rw [decide_eq_true beyond] at success
      cases success
    · rintro ⟨listed, -⟩
      obtain ⟨prompt', completion', counts', -, -, within⟩ := listed.usage
      obtain ⟨rfl, rfl⟩ := counts.unique counts'
      exact absurd beyond (not_lt.mpr within)
  · rw [decide_eq_false beyond]
    constructor
    · rintro ⟨-, rfl⟩
      exact ⟨⟨search, model, stopped, id, prompt, completion, counts, total, bound,
        not_lt.mp beyond⟩, detailed⟩
    · rintro ⟨listed, -⟩
      exact ⟨rfl, stopped.unique listed.choice⟩

/-! ## Calls -/

/-- A response is handled: it is made an execution, the bytes of a single answer are captured, and
a success is what is listed, with the details. -/
structure Handled (budget : GlmBudget) (members : List (Text × Document)) (elapsedMs : Nat) :
    Prop where
  /-- Nothing is raised. -/
  returns : ∃ execution, handleResponse budget members elapsedMs = .ok execution
  /-- The bytes of an answer that UTF-8 encodes. -/
  captured : ∀ execution, handleResponse budget members elapsedMs = .ok execution →
    ∀ content bytes, SingleAnswer members content → encodeText content = some bytes →
      execution.observation.answerBytes = some bytes ∧ execution.captured = true
  /-- The success, whose answer is the content. -/
  success : ∀ execution, handleResponse budget members elapsedMs = .ok execution →
    ∀ answer, execution.result.status = .candidateSuccess ∧ execution.result.answer = answer ↔
      Listed budget members answer ∧ Detailed members

/-- The result of an observed document. -/
theorem exists_resultOf (observes : Observes members observation) (countable : Countable members) :
    ∃ result, resultOf budget members observation = .ok result ∧
      ∀ answer, result.status = .candidateSuccess ∧ result.answer = answer ↔
        Listed budget members answer ∧ Detailed members := by
  unfold resultOf
  cases validated : validateObservation budget members observation with
  | ok result => exact ⟨result, rfl, validated_success observes validated⟩
  | error error =>
    have known := validateObservation_raises observes countable error validated
    obtain ⟨cost, carried⟩ := exists_costFromObservation observes countable
    have failed : ∃ result, failedResult members observation error = .ok result ∧
        result.status = .candidateFailure := by
      unfold failedResult
      simp only [Macr.bind_eq_ok, raiseIf_eq_ok, exists_const, carried, known]
      exact ⟨_, ⟨by decide, cost, rfl, rfl⟩, rfl⟩
    obtain ⟨result, returned, failure⟩ := failed
    refine ⟨result, returned, fun answer => iff_of_false ?_ ?_⟩
    · rintro ⟨success, -⟩
      rw [failure] at success
      cases success
    · rintro ⟨listed, detailed⟩
      obtain ⟨result, done⟩ := exists_validateObservation observes countable listed detailed
      rw [validated] at done
      cases done

/-- A document whose counts a float holds is made an execution of its observation. -/
theorem exists_handleResponse (countable : Countable members) :
    ∃ execution, handleResponse budget members elapsedMs = .ok execution ∧
      execution.observation.answerBytes = answerBytesOf (contentOf members) ∧
      execution.captured = execution.observation.answerBytes.isSome ∧
      ∀ answer, execution.result.status = .candidateSuccess ∧ execution.result.answer = answer ↔
        Listed budget members answer ∧ Detailed members := by
  obtain ⟨observation, observed, observes⟩ := @exists_observeResponse _ elapsedMs countable
  obtain ⟨result, made, success⟩ := @exists_resultOf budget _ _ observes countable
  refine ⟨⟨observation, result, observation.answerBytes.isSome⟩, ?_, observes.answer, rfl, success⟩
  exact Macr.bind_eq_ok.mpr ⟨observation, observed, Macr.bind_eq_ok.mpr ⟨result, made, rfl⟩⟩

/-- A response whose counts a float holds is handled. -/
theorem glm_handles (budget : GlmBudget) (members : List (Text × Document)) (elapsedMs : Nat)
    (countable : Countable members) : Handled budget members elapsedMs := by
  obtain ⟨execution, handled, bytes, captured, success⟩ :=
    @exists_handleResponse budget _ elapsedMs countable
  constructor
  · exact ⟨execution, handled⟩
  · intro other same content encoded single written
    obtain rfl := Except.ok.inj (handled.symm.trans same)
    rw [captured, bytes, contentOf_eq_some.mpr single]
    exact ⟨written, by rw [answerBytesOf, written]; rfl⟩
  · intro other same
    obtain rfl := Except.ok.inj (handled.symm.trans same)
    exact success

/-- A number of one digit. -/
private def single (digit : Char) : Document := .number ⟨false, [code digit], none, none⟩

/-- A response that counts two tokens and three, and has a text for the details of its prompt. -/
private def textForDetails : List (Text × Document) :=
  [(name "model", .string fixedModel),
    (name "choices", .array [.object [(name "finish_reason", .string (name "stop")),
      (name "message", .object [(name "content", .string (name "Yes"))])]]),
    (name "usage", .object [(name "prompt_tokens", single '2'),
      (name "completion_tokens", single '3'), (name "total_tokens", single '5'),
      (name "prompt_tokens_details", .string (name "none"))])]

/-- Its counts are small. -/
private theorem textForDetails_counts : Counts textForDetails 2 3 :=
  ⟨⟨_, rfl, rfl, by decide⟩, ⟨_, rfl, rfl, by decide⟩⟩

/-- A float holds them. -/
private theorem textForDetails_countable : Countable textForDetails := by
  intro prompt completion counts
  obtain ⟨rfl, rfl⟩ := textForDetails_counts.unique counts
  exact ⟨by decide +kernel, by decide +kernel⟩

/-- The response is handled. -/
theorem glm_handles_textForDetails : Handled ⟨64, 1⟩ textForDetails 10 :=
  glm_handles ⟨64, 1⟩ textForDetails 10 textForDetails_countable

/-- It is no success, though all that is listed holds of it. -/
theorem glm_refuses_listed : ¬∀ budget members elapsedMs execution,
    handleResponse budget members elapsedMs = .ok execution →
    ∀ answer, execution.result.status = .candidateSuccess ∧ execution.result.answer = answer ↔
      Listed budget members answer := by
  intro exactly
  obtain ⟨execution, handled, -, -, success⟩ := @exists_handleResponse ⟨64, 1⟩
    _ 10 textForDetails_countable
  have listed : Listed ⟨64, 1⟩ textForDetails (name "Yes") :=
    { webSearch := .inl (.inl rfl)
      model := rfl
      choice := ⟨_, _, rfl, rfl, rfl, rfl, by decide, .inl (.inl rfl)⟩
      responseId := .inl (.inl rfl)
      usage := ⟨2, 3, textForDetails_counts, ⟨_, rfl, rfl, by decide⟩, by decide,
        by norm_num [estimatedCost, listInputUsdPerM, listOutputUsdPerM]⟩ }
  obtain ⟨-, detailed⟩ := (success _).mp ((exactly _ _ _ _ handled _).mpr listed)
  rcases detailed.cached with (missing | null) | ⟨details, object, -⟩
  · cases missing
  · cases null
  · cases object

end Macr.Providers.Glm
