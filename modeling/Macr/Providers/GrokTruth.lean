import Macr.Providers.Documents
import Macr.Providers.Grok

/-!
# What a Grok call tells

A call that received bytes tells so, a call that tells nothing was sent sent nothing, and a call is
a success for the documents that the adapter promises to take. The exceptions are documents and
exchanges at which an exception of another class escapes.
-/

namespace Macr.Providers.Grok

open Lib Lib.JsonText Answers

/-! ## Documents -/

/-- The usage of a response: all counters are counters, no tool was used, and the ticks are
there. -/
structure UsageFits (usage : List (Text × Document)) (ticks : Nat) : Prop where
  /-- Tokens read. -/
  input : Counter (field usage "input_tokens")
  /-- Tokens written. -/
  output : Counter (field usage "output_tokens")
  /-- Tokens reasoned with. -/
  reasoning : Counter (detail usage "output_tokens_details" "reasoning_tokens")
  /-- Tokens read from a cache. -/
  cached : Counter (detail usage "input_tokens_details" "cached_tokens")
  /-- No server-side tool. -/
  tools : Absent (field usage "num_server_side_tools_used") ∨
    IsCount (field usage "num_server_side_tools_used") 0
  /-- The ticks of the cost. -/
  ticks : IsCount (field usage "cost_in_usd_ticks") ticks

/-- A document that the adapter promises to take, up to its cost. -/
structure Counted (model : Text) (members : List (Text × Document)) (answer : Text) (ticks : Nat) :
    Prop where
  /-- The status. -/
  status : Absent (field members "status") ∨
    field members "status" = some (.string (name "completed"))
  /-- The model. -/
  model : field members "model" = some (.string model)
  /-- The blocks of text, and the answer they make. -/
  blocks : ∃ output, field members "output" = some (.array output) ∧
    output.flatMap itemTexts ≠ [] ∧ (output.flatMap itemTexts).flatten = answer
  /-- The usage. -/
  usage : ∃ usage, field members "usage" = some (.object usage) ∧ UsageFits usage ticks
  /-- The id. -/
  responseId : Absent (field members "id") ∨ ∃ text, field members "id" = some (.string text)

/-- A document that the adapter promises to take within a budget. -/
def Qualifies (task : GrokTask) (model : Text) (members : List (Text × Document))
    (answer : Text) : Prop :=
  ∃ ticks, Counted model members answer ticks ∧ (ticks : ℚ) / 10000000000 ≤ task.maxCostUsd

/-- The status is an array or an object. -/
def StatusUnhashable (members : List (Text × Document)) : Prop :=
  (∃ items, field members "status" = some (.array items)) ∨
    ∃ fields, field members "status" = some (.object fields)

/-- The number of server-side tools is null. -/
def ToolsNull (members : List (Text × Document)) : Prop :=
  ∃ usage, field members "usage" = some (.object usage) ∧
    field usage "num_server_side_tools_used" = some .null

/-- A counter is read when it is one. -/
theorem optionalNonNegativeInt_eq_ok {value : Option Document} {count : Option Nat} :
    optionalNonNegativeInt value = .ok count ↔
      Absent value ∧ count = none ∨ ∃ given, IsCount value given ∧ count = some given := by
  constructor
  · intro read
    unfold optionalNonNegativeInt at read
    split at read
    · exact .inl ⟨.inl rfl, (Except.ok.inj read).symm⟩
    · exact .inl ⟨.inr rfl, (Except.ok.inj read).symm⟩
    · rename_i number
      split at read
      case isTrue fits =>
        exact .inr ⟨_, ⟨number, rfl, fits.1, (Int.toNat_of_nonneg fits.2).symm⟩,
          (Except.ok.inj read).symm⟩
      case isFalse => cases read
    · cases read
  · rintro (⟨rfl | rfl, rfl⟩ | ⟨given, ⟨number, rfl, integer, same⟩, rfl⟩)
    · rfl
    · rfl
    · unfold optionalNonNegativeInt
      dsimp only
      rw [if_pos ⟨integer, by rw [same]; exact Int.natCast_nonneg given⟩, same, Int.toNat_natCast]

/-- A value is read as a counter when it is one. -/
theorem exists_optionalNonNegativeInt {value : Option Document} :
    (∃ count, optionalNonNegativeInt value = .ok count) ↔ Counter value := by
  simp only [optionalNonNegativeInt_eq_ok, Counter]
  constructor
  · rintro ⟨_, ⟨absent, -⟩ | ⟨count, counts, -⟩⟩
    · exact .inl absent
    · exact .inr ⟨count, counts⟩
  · rintro (absent | ⟨count, counts⟩)
    · exact ⟨none, .inl ⟨absent, rfl⟩⟩
    · exact ⟨some count, .inr ⟨count, counts, rfl⟩⟩

/-- Only the protocol error is raised. -/
abbrev Protocol {α : Type} (result : Except Raised α) : Prop :=
  RaisesOnly (fun error => error = protocolError) result

/-- The protocol error without telemetry. -/
theorem protocolError_eq : protocolError = ⟨"ProviderProtocolError", some {}⟩ := by
  unfold protocolError diagnosed
  exact if_pos (by decide)

/-- A counter raises the protocol error. -/
theorem optionalNonNegativeInt_raises (value : Option Document) :
    Protocol (optionalNonNegativeInt value) := by
  unfold optionalNonNegativeInt
  split
  · exact raisesOnly_ok
  · exact raisesOnly_ok
  · split <;> simp
  · simp

/-- So do the texts. -/
theorem extractOutputText_raises (members : List (Text × Document)) :
    Protocol (extractOutputText members) := by
  unfold extractOutputText
  split
  · exact raisesOnly_bind.mpr ⟨by simp, by simp⟩
  · simp

/-- So does the number of tools. -/
theorem serverSideTools_raises (value : Option Document) : Protocol (serverSideTools value) := by
  unfold serverSideTools
  split
  · exact raisesOnly_ok
  · exact optionalNonNegativeInt_raises _

/-- So does the usage. -/
theorem normalizedUsage_raises (members : List (Text × Document)) :
    Protocol (normalizedUsage members) := by
  unfold normalizedUsage
  split
  · simp only [raisesOnly_bind, optionalNonNegativeInt_raises, serverSideTools_raises, true_and,
      raisesOnly_pure, implies_true]
  · simp

/-- So does the model. -/
theorem checkModel_raises (model : Text) (value : Option Document) :
    Protocol (checkModel model value) := by
  unfold checkModel
  split <;> simp

/-- So does the id. -/
theorem responseIdOf_raises (value : Option Document) : Protocol (responseIdOf value) := by
  unfold responseIdOf
  split <;> simp

/-- The status raises another error when it has no hash. -/
theorem checkStatus_raises {members : List (Text × Document)} :
    Protocol (checkStatus (field members "status")) ↔ ¬StatusUnhashable members := by
  unfold StatusUnhashable
  cases status : field members "status" with
  | none => simp [checkStatus]
  | some document => cases document <;> simp [checkStatus, plain, protocolError_eq]

/-- A response that is refused raises the protocol error, unless its status has no hash. -/
theorem validateResponse_raises {model : Text} {members : List (Text × Document)} :
    Protocol (validateResponse model members) ↔ ¬StatusUnhashable members := by
  simp only [validateResponse, raisesOnly_bind, checkStatus_raises, checkModel_raises,
    extractOutputText_raises, normalizedUsage_raises, raisesOnly_refuse, raisesOnly_present,
    responseIdOf_raises, raisesOnly_pure, implies_true, and_true]

/-- The texts of a document. -/
theorem extractOutputText_eq_ok {members : List (Text × Document)} {answer : Text} :
    extractOutputText members = .ok answer ↔ ∃ output, field members "output" = some (.array output) ∧
      output.flatMap itemTexts ≠ [] ∧ (output.flatMap itemTexts).flatten = answer := by
  unfold extractOutputText
  split
  · rename_i output given
    dsimp only
    simp only [bind_eq_ok, refuse_eq_ok, exists_const, pure_eq_ok, given, Option.some.injEq,
      Document.array.injEq, exists_eq_left', ne_eq]
  · rename_i other
    simp only [reduceCtorEq, false_iff, not_exists, not_and]
    intro output given
    exact absurd given (other output)

/-- The model of a document. -/
theorem checkModel_eq_ok {model : Text} {value : Option Document} {found : Unit} :
    checkModel model value = .ok found ↔ value = some (.string model) := by
  unfold checkModel
  split
  · simp
  · rename_i other
    simp only [reduceCtorEq, false_iff]
    exact other model

/-- The id of a document. -/
theorem responseIdOf_eq_ok {value : Option Document} {text : Option Text} :
    responseIdOf value = .ok text ↔
      Absent value ∧ text = none ∨ ∃ given, value = some (.string given) ∧ text = some given := by
  constructor
  · intro read
    unfold responseIdOf at read
    split at read
    · exact .inl ⟨.inl rfl, (Except.ok.inj read).symm⟩
    · exact .inl ⟨.inr rfl, (Except.ok.inj read).symm⟩
    · exact .inr ⟨_, rfl, (Except.ok.inj read).symm⟩
    · cases read
  · rintro (⟨rfl | rfl, rfl⟩ | ⟨given, rfl, rfl⟩) <;> rfl

/-- The status of a document. -/
theorem checkStatus_eq_ok {value : Option Document} {found : Unit} :
    checkStatus value = .ok found ↔
      Absent value ∨ value = some (.string (name "completed")) := by
  constructor
  · intro read
    unfold checkStatus at read
    split at read
    · exact .inl (.inl rfl)
    · exact .inl (.inr rfl)
    · exact .inr (by rw [not_not.mp (refuse_eq_ok.mp read)])
    · cases read
    · cases read
    · cases read
  · rintro ((rfl | rfl) | rfl)
    · rfl
    · rfl
    · exact refuse_eq_ok.mpr (by simp)

/-- The number of tools of a document, where it has to be zero. -/
theorem serverSideTools_eq_zero {value : Option Document} :
    serverSideTools value = .ok (some 0) ↔ value = none ∨ IsCount value 0 := by
  unfold serverSideTools
  cases value with
  | none => simp
  | some given =>
    simp only [optionalNonNegativeInt_eq_ok, reduceCtorEq, and_false, Option.some.injEq, false_or]
    exact ⟨fun ⟨_, counts, zero⟩ => zero ▸ counts, fun counts => ⟨0, counts, rfl⟩⟩

/-- A usage is read when it fits. -/
theorem exists_normalizedUsage {members : List (Text × Document)} {ticks : Nat} :
    (∃ usage, normalizedUsage members = .ok usage ∧ usage.numServerSideToolsUsed = some 0 ∧
      usage.costInUsdTicks = some ticks) ↔
      (∃ usage, field members "usage" = some (.object usage) ∧ UsageFits usage ticks) ∧
        ¬ToolsNull members := by
  constructor
  · rintro ⟨found, read, zero, given⟩
    unfold normalizedUsage at read
    split at read
    case h_2 => cases read
    case h_1 usage member =>
      simp only [bind_eq_ok, pure_eq_ok] at read
      obtain ⟨_, input, _, output, _, reasoning, _, cached, tools, used, _, cost, rfl⟩ := read
      dsimp only at zero given
      subst zero given
      have counted := serverSideTools_eq_zero.mp used
      refine ⟨⟨usage, member, exists_optionalNonNegativeInt.mp ⟨_, input⟩,
        exists_optionalNonNegativeInt.mp ⟨_, output⟩,
        exists_optionalNonNegativeInt.mp ⟨_, reasoning⟩,
        exists_optionalNonNegativeInt.mp ⟨_, cached⟩, counted.imp_left .inl, ?_⟩, ?_⟩
      · rcases optionalNonNegativeInt_eq_ok.mp cost with ⟨_, none⟩ | ⟨count, counts, same⟩
        · cases none
        · obtain rfl := Option.some.inj same
          exact counts
      · rintro ⟨other, member', null⟩
        obtain rfl := Document.object.inj (Option.some.inj (member.symm.trans member'))
        rw [null] at counted
        rcases counted with missing | ⟨number, number', -⟩
        · cases missing
        · cases number'
  · rintro ⟨⟨usage, member, fits⟩, notNull⟩
    obtain ⟨_, input⟩ := exists_optionalNonNegativeInt.mpr fits.input
    obtain ⟨_, output⟩ := exists_optionalNonNegativeInt.mpr fits.output
    obtain ⟨_, reasoning⟩ := exists_optionalNonNegativeInt.mpr fits.reasoning
    obtain ⟨_, cached⟩ := exists_optionalNonNegativeInt.mpr fits.cached
    have tools : serverSideTools (field usage "num_server_side_tools_used") = .ok (some 0) := by
      refine serverSideTools_eq_zero.mpr (fits.tools.imp_left ?_)
      rintro (missing | null)
      · exact missing
      · exact absurd ⟨usage, member, null⟩ notNull
    have cost := optionalNonNegativeInt_eq_ok.mpr (.inr ⟨ticks, fits.ticks, rfl⟩)
    unfold normalizedUsage
    rw [member]
    simp only [bind_eq_ok, pure_eq_ok]
    exact ⟨_, ⟨_, input, _, output, _, reasoning, _, cached, _, tools, _, cost, rfl⟩, rfl, rfl⟩

/-- The id that a document gives. -/
def idOf (members : List (Text × Document)) : Option Text :=
  match field members "id" with
  | some (.string text) => some text
  | _ => none

/-- A response is validated when it is counted and the number of its tools is not null. -/
theorem exists_validateResponse {model answer : Text} {members : List (Text × Document)}
    {ticks : Nat} :
    (∃ validated, validateResponse model members = .ok validated ∧ validated.answer = answer ∧
      validated.costTicks = ticks ∧ validated.responseId = idOf members) ↔
      Counted model members answer ticks ∧ ¬ToolsNull members := by
  constructor
  · rintro ⟨validated, read, rfl, rfl, -⟩
    simp only [validateResponse, bind_eq_ok, refuse_eq_ok, exists_const, present_eq_ok, pure_eq_ok,
      checkStatus_eq_ok, checkModel_eq_ok, extractOutputText_eq_ok, not_not, ne_eq] at read
    obtain ⟨status, model, _, blocks, usage, used, zero, _, given, _, id, rfl⟩ := read
    obtain ⟨fits, notNull⟩ := exists_normalizedUsage.mp ⟨usage, used, zero, given⟩
    refine ⟨⟨status, model, blocks, fits, ?_⟩, notNull⟩
    rcases responseIdOf_eq_ok.mp id with ⟨absent, -⟩ | ⟨text, named, -⟩
    · exact .inl absent
    · exact .inr ⟨text, named⟩
  · rintro ⟨counted, notNull⟩
    obtain ⟨usage, used, zero, given⟩ := exists_normalizedUsage.mpr ⟨counted.usage, notNull⟩
    have id : responseIdOf (field members "id") = .ok (idOf members) := by
      unfold idOf
      refine responseIdOf_eq_ok.mpr ?_
      rcases counted.responseId with absent | ⟨text, named⟩
      · refine .inl ⟨absent, ?_⟩
        rcases absent with missing | null
        · rw [missing]
        · rw [null]
      · exact .inr ⟨text, named, by rw [named]⟩
    refine ⟨⟨answer, usage, ticks, idOf members⟩, ?_, rfl, rfl, rfl⟩
    simp only [validateResponse, bind_eq_ok, refuse_eq_ok, exists_const, present_eq_ok, pure_eq_ok,
      checkStatus_eq_ok, checkModel_eq_ok, extractOutputText_eq_ok, not_not, ne_eq]
    exact ⟨counted.status, counted.model, answer, counted.blocks, usage, used, zero, ticks, given,
      _, id, rfl⟩

/-- A validated response gives the id of its document. -/
theorem validated_of_ok {model : Text} {members : List (Text × Document)} {validated : GrokAnswer}
    (read : validateResponse model members = .ok validated) :
    Counted model members validated.answer validated.costTicks ∧ ¬ToolsNull members ∧
      validated.responseId = idOf members := by
  have id : validated.responseId = idOf members := by
    simp only [validateResponse, bind_eq_ok, pure_eq_ok] at read
    obtain ⟨_, _, _, _, _, _, _, _, _, _, _, _, _, id, rfl⟩ := read
    unfold idOf
    rcases responseIdOf_eq_ok.mp id with ⟨missing | null, rfl⟩ | ⟨text, named, rfl⟩
    · rw [missing]
    · rw [null]
    · rw [named]
  obtain ⟨counted, notNull⟩ := exists_validateResponse.mp ⟨validated, read, rfl, rfl, id⟩
  exact ⟨counted, notNull, id⟩

/-- A document counts to one answer and one number of ticks. -/
theorem Counted.unique {model answer answer' : Text} {members : List (Text × Document)}
    {ticks ticks' : Nat} (counted : Counted model members answer ticks)
    (other : Counted model members answer' ticks') : answer = answer' ∧ ticks = ticks' := by
  obtain ⟨output, given, -, rfl⟩ := counted.blocks
  obtain ⟨output', given', -, rfl⟩ := other.blocks
  obtain ⟨usage, found, fits⟩ := counted.usage
  obtain ⟨usage', found', fits'⟩ := other.usage
  obtain rfl := Document.array.inj (Option.some.inj (given.symm.trans given'))
  obtain rfl := Document.object.inj (Option.some.inj (found.symm.trans found'))
  obtain ⟨number, cost, -, same⟩ := fits.ticks
  obtain ⟨number', cost', -, same'⟩ := fits'.ticks
  obtain rfl := Document.number.inj (Option.some.inj (cost.symm.trans cost'))
  exact ⟨rfl, Int.natCast_inj.mp (same.symm.trans same')⟩

/-! ## Executions -/

/-- What a call says of the transport. -/
def telemetryOf : Except Raised Execution → Option TransportObservation
  | .ok execution => some execution.observation.transport
  | .error raised => raised.diagnostic

/-- A call says that a response was received. -/
def Tells (outcome : Except Raised Execution) : Prop :=
  ∃ transport ∈ telemetryOf outcome, TellsReceived transport

instance (transport : TransportObservation) : Decidable (TellsReceived transport) :=
  inferInstanceAs (Decidable (_ ∧ _))

instance (outcome : Except Raised Execution) : Decidable (Tells outcome) :=
  inferInstanceAs (Decidable (∃ transport ∈ telemetryOf outcome, TellsReceived transport))

/-- A call is a candidate success with an answer. -/
def Succeeds (outcome : Except Raised Execution) (answer : Text) : Prop :=
  ∃ execution, outcome = .ok execution ∧ execution.status = .candidateSuccess ∧
    execution.answer = answer

/-- The price of ticks. -/
def priceOf (ticks : Nat) : ℚ := ticks / 10000000000

/-- What is left of a validated response can be returned: a float holds its price, its answer can
be encoded, and its id is not blank. -/
structure Returnable (members : List (Text × Document)) (answer : Text) (ticks : Nat) : Prop where
  /-- The price. -/
  price : isFloat (priceOf ticks) = true
  /-- The answer. -/
  encodable : answer.all isScalar = true
  /-- The id. -/
  responseId : ∀ text ∈ idOf members, isBlankText text = false

/-- Where a document is told as it is: its status has a hash, and if it counts, then it is beyond
the budget when the number of its tools is null, and it can be returned when it is not. -/
def Unremarkable (task : GrokTask) (model : Text) (members : List (Text × Document)) : Prop :=
  ¬StatusUnhashable members ∧ ∀ answer ticks, Counted model members answer ticks →
    (ToolsNull members → task.maxCostUsd < priceOf ticks) ∧
      (¬ToolsNull members → Returnable members answer ticks)

/-- An answer that is encoded is returned. -/
theorem encodeAnswer_cases (answer : Text) :
    answer.all isScalar = true ∧ (∃ bytes, encodeAnswer answer = .ok bytes) ∨
      answer.all isScalar = false ∧ encodeAnswer answer = .error (plain "UnicodeEncodeError") := by
  unfold encodeAnswer encodeText
  by_cases empty : answer = []
  · subst empty
    exact .inl ⟨rfl, none, rfl⟩
  · rw [if_neg empty]
    cases scalar : answer.all isScalar with
    | true => exact .inl ⟨rfl, _, rfl⟩
    | false => exact .inr ⟨rfl, rfl⟩

/-- What is made of a validated response: an execution, or an error that says nothing. -/
theorem fromResult_cases {model : Text} (named : isBlankText model = false)
    (validated : GrokAnswer) {cost : ℚ} (positive : 0 ≤ cost) (overBudget : Bool) :
    (validated.answer.all isScalar = true ∧ (∀ text ∈ validated.responseId,
        isBlankText text = false) ∧
      ∃ execution, fromResult model validated cost overBudget = .ok execution ∧
        execution.observation.transport = receivedAt "response_received" none none ∧
        execution.status = (if overBudget then .candidateFailure else .candidateSuccess) ∧
        execution.answer = validated.answer) ∨
    (¬(validated.answer.all isScalar = true ∧ ∀ text ∈ validated.responseId,
        isBlankText text = false) ∧
      ∃ className, fromResult model validated cost overBudget = .error (plain className)) := by
  have formed : (receivedAt "response_received" none none).WellFormed :=
    receivedAt_wellFormed.mpr ⟨nofun, nofun, by decide⟩
  unfold fromResult
  rcases encodeAnswer_cases validated.answer with ⟨scalar, bytes, encoded⟩ | ⟨surrogate, raised⟩
  · by_cases blank : ∀ text ∈ validated.responseId, isBlankText text = false
    · refine .inl ⟨scalar, blank, ?_⟩
      simp only [bind_eq_ok, pure_eq_ok, Observation.make_eq_ok]
      exact ⟨_, ⟨bytes, encoded, _, ⟨by rintro _ ⟨⟩; exact named, blank, nofun,
        by rintro _ ⟨⟩; exact positive, formed, rfl⟩, rfl⟩, rfl, rfl, rfl⟩
    · refine .inr ⟨fun both => blank both.2, "ValueError", ?_⟩
      rw [encoded]
      have refused : ∀ given : Observation, given.responseId = validated.responseId →
          given.make = .error (plain "ValueError") := by
        intro given same
        cases made : given.make with
        | ok observation => exact absurd (same ▸ (Observation.make_eq_ok.mp made).2.1) blank
        | error raised => rw [given.make_raises raised made]
      simp only [bind, Except.bind, refused]
  · refine .inr ⟨fun both => ?_, "UnicodeEncodeError", ?_⟩
    · rw [surrogate] at both
      cases both.1
    · rw [raised]
      rfl

/-- A document is told as it is: the call says that a response was received, and it succeeds with
the answers that the adapter promises. -/
structure DocumentTold (task : GrokTask) (model : Text) (members : List (Text × Document)) : Prop where
  /-- The response. -/
  received : Tells (observeDocument task model members)
  /-- The success. -/
  success : ∀ answer, Succeeds (observeDocument task model members) answer ↔
    Qualifies task model members answer

/-- An error without a diagnostic tells nothing. -/
theorem not_tells_plain {className : String} : ¬Tells (.error (plain className)) := by
  simp [Tells, telemetryOf, plain]

/-- Nothing succeeds with an error. -/
theorem not_succeeds_error {raised : Raised} {answer : Text} : ¬Succeeds (.error raised) answer := by
  rintro ⟨_, ⟨⟩, _⟩

/-- A status that has no hash raises `TypeError`. -/
theorem observeDocument_unhashable {task : GrokTask} {model : Text}
    {members : List (Text × Document)} (unhashable : StatusUnhashable members) :
    observeDocument task model members = .error (plain "TypeError") := by
  unfold observeDocument validateResponse
  rcases unhashable with ⟨_, given⟩ | ⟨_, given⟩ <;> rw [given] <;> rfl

/-- A document that is refused is told with the telemetry. -/
theorem observeDocument_refused {task : GrokTask} {model : Text}
    {members : List (Text × Document)}
    (refused : validateResponse model members = .error protocolError) :
    observeDocument task model members = .error (diagnosed "ProviderProtocolError"
      (receivedAt "response_validation" none none)) := by
  unfold observeDocument
  rw [refused, protocolError_eq]
  rfl

/-- A price is not negative. -/
theorem priceOf_nonneg (ticks : Nat) : 0 ≤ priceOf ticks :=
  div_nonneg (Nat.cast_nonneg ticks) (by norm_num)

/-- What is made of a validated document: an execution, or an error that says nothing. -/
theorem observeDocument_cases {task : GrokTask} {model : Text} (named : isBlankText model = false)
    {members : List (Text × Document)} {validated : GrokAnswer}
    (read : validateResponse model members = .ok validated)
    (id : validated.responseId = idOf members) :
    (Returnable members validated.answer validated.costTicks ∧
      ∃ execution, observeDocument task model members = .ok execution ∧
        execution.observation.transport = receivedAt "response_received" none none ∧
        execution.status = (if decide (task.maxCostUsd < priceOf validated.costTicks) then
          .candidateFailure else .candidateSuccess) ∧
        execution.answer = validated.answer) ∨
    (¬Returnable members validated.answer validated.costTicks ∧
      ∃ className, observeDocument task model members = .error (plain className)) := by
  have start : observeDocument task model members = costUsd validated.costTicks >>= fun cost =>
      fromResult model validated cost (task.maxCostUsd < cost) := by
    unfold observeDocument
    rw [read]
    rfl
  rw [start]
  cases price : isFloat (priceOf validated.costTicks) with
  | false =>
    refine .inr ⟨fun returnable => ?_, "OverflowError", ?_⟩
    · rw [returnable.price] at price
      cases price
    · have raised : costUsd validated.costTicks = .error (plain "OverflowError") := by
        unfold costUsd refuse
        dsimp only
        rw [show isFloat ((validated.costTicks : ℚ) / 10000000000) = false from price]
        rfl
      rw [raised]
      rfl
  | true =>
    have priced : costUsd validated.costTicks = .ok (priceOf validated.costTicks) := by
      unfold costUsd refuse
      dsimp only
      rw [show isFloat ((validated.costTicks : ℚ) / 10000000000) = true from price]
      rfl
    rw [priced]
    rcases fromResult_cases named validated (priceOf_nonneg validated.costTicks)
      (task.maxCostUsd < priceOf validated.costTicks) with
      ⟨encodable, blank, returned⟩ | ⟨odd, raised⟩
    · exact .inl ⟨⟨price, encodable, id ▸ blank⟩, returned⟩
    · exact .inr ⟨fun returnable => odd ⟨returnable.encodable, id ▸ returnable.responseId⟩, raised⟩

/-- A document is told as it is where it is unremarkable. -/
theorem documentTold_iff {task : GrokTask} {model : Text} (named : isBlankText model = false)
    {members : List (Text × Document)} :
    DocumentTold task model members ↔ Unremarkable task model members := by
  by_cases unhashable : StatusUnhashable members
  · refine iff_of_false (fun told => ?_) (fun unremarkable => unremarkable.1 unhashable)
    have tells := told.received
    rw [observeDocument_unhashable unhashable] at tells
    exact not_tells_plain tells
  cases read : validateResponse model members with
  | error raised =>
    obtain rfl := validateResponse_raises.mpr unhashable raised read
    have outcome := @observeDocument_refused task _ _ read
    have toolsNull : ∀ {answer ticks}, Counted model members answer ticks → ToolsNull members := by
      intro answer ticks counted
      by_contra notNull
      obtain ⟨validated, done, -⟩ := exists_validateResponse.mpr ⟨counted, notNull⟩
      rw [read] at done
      cases done
    constructor
    · intro told
      refine ⟨unhashable, fun answer ticks counted => ⟨fun _ => ?_, fun notNull => absurd
        (toolsNull counted) notNull⟩⟩
      by_contra within
      have success := (told.success answer).mpr ⟨ticks, counted, not_lt.mp within⟩
      rw [outcome] at success
      exact not_succeeds_error success
    · intro unremarkable
      constructor
      · rw [outcome]
        exact saysReceived_diagnosed.mpr (receivedAt_wellFormed.mpr ⟨nofun, nofun, by decide⟩)
      · intro answer
        rw [outcome]
        refine iff_of_false not_succeeds_error ?_
        rintro ⟨ticks, counted, within⟩
        exact absurd within (not_le.mpr ((unremarkable.2 answer ticks counted).1
          (toolsNull counted)))
  | ok validated =>
    obtain ⟨counted, notNull, id⟩ := validated_of_ok read
    have remark : Unremarkable task model members ↔
        Returnable members validated.answer validated.costTicks := by
      constructor
      · exact fun unremarkable => (unremarkable.2 _ _ counted).2 notNull
      · intro returnable
        refine ⟨unhashable, fun answer ticks other => ⟨fun null => absurd null notNull, fun _ => ?_⟩⟩
        obtain ⟨rfl, rfl⟩ := counted.unique other
        exact returnable
    rw [remark]
    rcases observeDocument_cases named read id with
      ⟨returnable, execution, outcome, transport, status, answered⟩ | ⟨odd, className, outcome⟩
    · refine iff_of_true ⟨?_, fun answer => ?_⟩ returnable
      · rw [outcome]
        exact ⟨_, rfl, by rw [transport]; rfl, by rw [transport]; rfl⟩
      · rw [outcome]
        constructor
        · rintro ⟨_, ⟨⟩, success, rfl⟩
          refine ⟨validated.costTicks, answered ▸ counted, ?_⟩
          rw [status] at success
          by_contra beyond
          have exceeds : decide (task.maxCostUsd < priceOf validated.costTicks) = true :=
            decide_eq_true (not_le.mp beyond)
          rw [exceeds] at success
          cases success
        · rintro ⟨ticks, other, within⟩
          obtain ⟨rfl, rfl⟩ := counted.unique other
          refine ⟨execution, rfl, ?_, answered⟩
          have inside : decide (task.maxCostUsd < priceOf validated.costTicks) = false :=
            decide_eq_false (not_lt.mpr within)
          rw [status, inside]
          rfl
    · refine iff_of_false (fun told => ?_) odd
      have tells := told.received
      rw [outcome] at tells
      exact not_tells_plain tells

/-! ## Calls -/

/-- An exchange brings a document: a response whose bytes are within the limit and write a JSON
object. -/
def Brings (limits : HttpLimits) (exchange : Exchange) (members : List (Text × Document)) : Prop :=
  ∃ status raw text, exchange = .opened status (.bytes raw) ∧ raw.length ≤ limits.maxResponseBytes ∧
    decodeUtf8 raw = some text ∧
    loadsLast limits.maxDigits limits.nesting text = .ok (.object members)

variable {limits : HttpLimits} {config : GrokConfig} {surroundings : GrokSurroundings}
  {task : GrokTask} {exchange : Exchange}

/-- A call tells the truth: of bytes that were received, of a request that was not sent, and of
success. -/
structure CallTold (limits : HttpLimits) (config : GrokConfig) (surroundings : GrokSurroundings)
    (task : GrokTask) (exchange : Exchange) : Prop where
  /-- The response. -/
  received : (∃ model, beforeNetwork limits config surroundings task = .ok model) →
    exchange.received = true → Tells (invokeObserved limits config surroundings task exchange)
  /-- A call that tells that the network was not used did not reach it. -/
  unsent : ∀ transport ∈ telemetryOf (invokeObserved limits config surroundings task exchange),
    transport.networkAttempted = some false →
    ∀ model, beforeNetwork limits config surroundings task ≠ .ok model
  /-- The success. -/
  success : ∀ answer, Succeeds (invokeObserved limits config surroundings task exchange) answer ↔
    ∃ model members, beforeNetwork limits config surroundings task = .ok model ∧
      Brings limits exchange members ∧ Qualifies task model.val members answer

/-- Where a call tells the truth: once it reaches the network, the exchange ends as the transport
expects, and the document it brings is unremarkable. -/
def Usual (limits : HttpLimits) (config : GrokConfig) (surroundings : GrokSurroundings)
    (task : GrokTask) (exchange : Exchange) : Prop :=
  ∀ model, beforeNetwork limits config surroundings task = .ok model →
    Expected limits exchange ∧
      ∀ members, Brings limits exchange members → Unremarkable task model.val members

/-- What an exchange brings is decoded. -/
theorem openAndDecode_eq_ok {members : List (Text × Document)} :
    openAndDecode limits exchange = .ok members ↔ Brings limits exchange members := by
  constructor
  · intro opened
    unfold openAndDecode at opened
    split at opened
    · cases opened
    · cases opened
    · obtain ⟨_, _, raised⟩ := bind_eq_ok.mp opened
      cases raised
    · rename_i status body
      dsimp only at opened
      split at opened
      · cases opened
      · cases opened
      · cases opened
      · rename_i raw
        obtain ⟨_, short, opened⟩ := bind_eq_ok.mp opened
        obtain ⟨document, decoded, opened⟩ := bind_eq_ok.mp opened
        split at opened
        · rename_i found
          obtain rfl := Except.ok.inj opened
          unfold decodeBody at decoded
          split at decoded
          · cases decoded
          · rename_i text read
            split at decoded
            · rename_i other loaded
              obtain rfl := Option.some.inj (Except.ok.inj decoded)
              exact ⟨status, raw, text, rfl, not_lt.mp (refuse_eq_ok.mp short), read, loaded⟩
            · cases decoded
            · cases decoded
            · cases decoded
            · cases decoded
        · cases opened
  · rintro ⟨status, raw, text, rfl, short, read, loaded⟩
    have decoded : decodeBody limits raw = .ok (some (.object members)) := by
      unfold decodeBody
      rw [read]
      dsimp only
      rw [loaded]
    dsimp only [openAndDecode]
    simp only [bind_eq_ok, refuse_eq_ok, exists_const, not_lt]
    exact ⟨short, some (.object members), decoded, rfl⟩

/-- An error does not tell that the network was not used. -/
def Attempted (error : Raised) : Prop :=
  ∀ transport ∈ error.diagnostic, transport.networkAttempted ≠ some false

/-- An error without a diagnostic does not. -/
theorem attempted_plain (className : String) : Attempted (plain className) := nofun

/-- Nor does one of a response. -/
theorem attempted_diagnosed (className : String) {transport : TransportObservation}
    (used : transport.networkAttempted = some true) : Attempted (diagnosed className transport) := by
  unfold diagnosed
  split
  · rintro _ ⟨⟩
    rw [used]
    decide
  · exact attempted_plain _

/-- The transport never tells that the network was not used. -/
theorem openAndDecode_attempted : RaisesOnly Attempted (openAndDecode limits exchange) := by
  have body : ∀ raw, RaisesOnly Attempted (decodeBody limits raw) := by
    intro raw
    unfold decodeBody
    split
    · exact raisesOnly_ok
    · split <;> simp [attempted_plain]
  cases exchange with
  | connection => exact raisesOnly_error.mpr (attempted_diagnosed _ rfl)
  | failed className received => exact raisesOnly_error.mpr (attempted_plain _)
  | httpError status read =>
    refine raisesOnly_bind.mpr ⟨?_, fun code _ => raisesOnly_error.mpr (attempted_diagnosed _ rfl)⟩
    cases read with
    | bytes raw =>
      unfold providerErrorCode
      dsimp only
      split
      · exact raisesOnly_ok
      · exact raisesOnly_map.mpr (body raw)
    | osError => exact raisesOnly_ok
    | valueError => exact raisesOnly_ok
    | other className => exact raisesOnly_error.mpr (attempted_plain _)
  | opened status read =>
    cases read with
    | bytes raw =>
      refine raisesOnly_bind.mpr ⟨raisesOnly_refuse.mpr fun _ => attempted_diagnosed _ rfl,
        fun _ _ => raisesOnly_bind.mpr ⟨body raw, fun document _ => ?_⟩⟩
      split
      · exact raisesOnly_ok
      · exact raisesOnly_error.mpr (attempted_diagnosed _ rfl)
    | osError => exact raisesOnly_error.mpr (attempted_diagnosed _ rfl)
    | valueError => exact raisesOnly_error.mpr (attempted_plain _)
    | other className => exact raisesOnly_error.mpr (attempted_plain _)

/-- Nor does what is made of a document. -/
theorem observeDocument_attempted {model : Text} (named : isBlankText model = false)
    {members : List (Text × Document)} :
    ∀ transport ∈ telemetryOf (observeDocument task model members),
      transport.networkAttempted ≠ some false := by
  by_cases unhashable : StatusUnhashable members
  · rw [observeDocument_unhashable unhashable]
    exact attempted_plain _
  cases read : validateResponse model members with
  | error raised =>
    obtain rfl := validateResponse_raises.mpr unhashable raised read
    rw [observeDocument_refused read]
    exact attempted_diagnosed _ rfl
  | ok validated =>
    rcases observeDocument_cases named read (validated_of_ok read).2.2 with
      ⟨-, execution, outcome, transport, -⟩ | ⟨-, className, outcome⟩
    · rw [outcome]
      rintro _ ⟨⟩
      rw [transport]
      decide
    · rw [outcome]
      exact attempted_plain _

/-- A call that reaches the network goes on with the exchange. -/
theorem invokeObserved_of_reached {model : {text : Text // isBlankText text = false}}
    (reached : beforeNetwork limits config surroundings task = .ok model) :
    invokeObserved limits config surroundings task exchange =
      openAndDecode limits exchange >>= observeDocument task model.val := by
  unfold invokeObserved
  rw [reached]
  rfl

/-- An exchange that brings a document received bytes. -/
theorem Brings.received {members : List (Text × Document)}
    (brought : Brings limits exchange members) : exchange.received = true := by
  obtain ⟨_, _, _, rfl, -⟩ := brought
  rfl

/-- An exchange brings one document. -/
theorem Brings.unique {members members' : List (Text × Document)}
    (brought : Brings limits exchange members) (other : Brings limits exchange members') :
    members = members' :=
  Except.ok.inj ((openAndDecode_eq_ok.mpr brought).symm.trans (openAndDecode_eq_ok.mpr other))

/-- A call that tells of the bytes it received had an exchange that ended as expected. -/
theorem expected_of_told {model : Text}
    (told : exchange.received = true →
      Tells (invokeObserved limits config surroundings task exchange))
    (outcome : invokeObserved limits config surroundings task exchange =
      openAndDecode limits exchange >>= observeDocument task model) : Expected limits exchange := by
  cases received : exchange.received with
  | true =>
    refine (openAndDecode_raises received).mp fun raised opened => ?_
    have tells := told received
    rw [outcome, opened] at tells
    exact tells
  | false =>
    cases exchange with
    | connection => trivial
    | failed className bytes => exact received
    | httpError status body => cases received
    | opened status body => cases received

/-- A task that asks for nothing but the network. -/
private def plainTask : GrokTask := ⟨true, "public", 1, 60, 64, []⟩

/-- A configuration that allows it. -/
private def plainConfig : GrokConfig := ⟨true, true, true, ["public"], [], 16, 4096⟩

/-- Surroundings in which everything is there. -/
private def plainSurroundings : GrokSurroundings :=
  ⟨.ok (), name "key", .ok (), .ok ⟨name "grok", by decide⟩, .ok (), .ok (), .ok 100⟩

/-- A response whose status is an array. -/
private def arrayStatus : Exchange := .opened (some 200) (.bytes (asciiBytes "\x7b\"status\": []\x7d"))

end Macr.Providers.Grok
