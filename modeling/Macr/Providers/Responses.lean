import Macr.Lib.JsonValues
import Macr.Lib.RaisesOnly
import Macr.Runtime.ReturnContracts

/-!
# What an adapter makes of a response

The errors an adapter raises, with what they say of the transport, and the observation it returns.
Answers are arbitrary strings, surrogates included, and costs are exact. The messages of errors are
left out: they are not read by a caller.
-/

namespace Macr.Providers

open Lib Lib.JsonText Answers

/-! ## Errors -/

/-- A raised error: its class, and its `safe_diagnostic` if it has one. -/
structure Raised where
  /-- The name of the class. -/
  className : String
  /-- What it says of the transport. -/
  diagnostic : Option TransportObservation
deriving DecidableEq

/-- An error without a diagnostic. -/
def plain (className : String) : Raised := ⟨className, none⟩

/-- The construction of an error with a diagnostic, which checks it. -/
def diagnosed (className : String) (transport : TransportObservation) : Raised :=
  if transport.WellFormed then ⟨className, some transport⟩ else plain "ValueError"

/-- `ProviderProtocolError` without telemetry. -/
def protocolError : Raised := diagnosed "ProviderProtocolError" {}

/-- `if refused: raise error`. -/
def refuse (refused : Prop) [Decidable refused] (error : Raised) : Except Raised Unit :=
  if refused then .error error else .ok ()

/-- A check passes when it does not refuse. -/
@[simp] theorem refuse_eq_ok {refused : Prop} [Decidable refused] {error : Raised} {value : Unit} :
    refuse refused error = .ok value ↔ ¬refused := by
  by_cases holds : refused <;> simp [refuse, holds]

@[simp] theorem raisesOnly_refuse {refused : Prop} [Decidable refused] {error : Raised}
    {allowed : Raised → Prop} :
    RaisesOnly allowed (refuse refused error) ↔ (refused → allowed error) := by
  by_cases holds : refused <;> simp [refuse, holds]

/-- A value that has to be there. -/
def present {α : Type} (found : Option α) (error : Raised) : Except Raised α :=
  match found with
  | some value => .ok value
  | none => .error error

@[simp] theorem present_eq_ok {α : Type} {found : Option α} {error : Raised} {value : α} :
    present found error = .ok value ↔ found = some value := by
  cases found <;> simp [present]

@[simp] theorem raisesOnly_present {α : Type} {found : Option α} {error : Raised}
    {allowed : Raised → Prop} :
    RaisesOnly allowed (present found error) ↔ (found = none → allowed error) := by
  cases found <;> simp [present]

/-- A sequence returns what its second part returns behind the first. -/
theorem bind_eq_ok {α β : Type} {first : Except Raised α} {next : α → Except Raised β} {value : β} :
    (first >>= next) = .ok value ↔ ∃ a, first = .ok a ∧ next a = .ok value := by
  cases first <;> simp [bind, Except.bind]

/-- Returning a value returns it. -/
theorem pure_eq_ok {α : Type} {given value : α} :
    (pure given : Except Raised α) = .ok value ↔ given = value := by
  simp [pure, Except.pure]

/-! ## Observations -/

/-- `str.strip`. -/
def stripText (text : Text) : Text :=
  ((text.dropWhile isSpaceCode).reverse.dropWhile isSpaceCode).reverse

/-- `RawProviderObservation`. -/
structure Observation where
  /-- `model`. -/
  model : Option Text
  /-- `response_id`. -/
  responseId : Option Text
  /-- `finish_reason`. -/
  finishReason : Option Text
  /-- `usage`. -/
  usage : ProviderUsage
  /-- `currency_cost_usd`. -/
  currencyCostUsd : Option ℚ
  /-- `cost_kind`. -/
  costKind : Option String
  /-- `pricing_basis_version`. -/
  pricingBasisVersion : Option String
  /-- `duration_ms`. -/
  durationMs : Option Nat
  /-- `answer_bytes`. -/
  answerBytes : Option (List UInt8)
  /-- `provider_state`. -/
  providerState : ProviderState
  /-- The transport. -/
  transport : TransportObservation

/-- `_optional_string`. -/
def optionalString : Option Text → Except Raised (Option Text)
  | none => .ok none
  | some text => if isBlankText text then .error (plain "ValueError") else .ok (stripText text)

/-- `RawProviderObservation.__post_init__`, for a provider that has an id. -/
def Observation.make (given : Observation) : Except Raised Observation := do
  let model ← optionalString given.model
  let responseId ← optionalString given.responseId
  let finishReason ← optionalString given.finishReason
  refuse (given.currencyCostUsd.any (· < 0)) (plain "ValueError")
  refuse (¬given.transport.WellFormed) (plain "ValueError")
  return { given with model := model, responseId := responseId, finishReason := finishReason }

/-- What a call returns of a result: the observation, the status of the candidate, and its
answer. -/
structure Execution where
  /-- The observation. -/
  observation : Observation
  /-- The status. -/
  status : CandidateStatus
  /-- The answer. -/
  answer : Text
  /-- The class of a failure. -/
  failureCode : Option String

/-- A text is taken when it is not blank. -/
theorem optionalString_eq_ok {text : Option Text} {value : Option Text} :
    optionalString text = .ok value ↔
      (∀ given ∈ text, isBlankText given = false) ∧ text.map stripText = value := by
  cases text with
  | none => simp [optionalString]
  | some given =>
    unfold optionalString
    cases blank : isBlankText given <;> simp [blank]

/-- A text raises only `ValueError`. -/
theorem optionalString_raises {text : Option Text} {allowed : Raised → Prop} :
    RaisesOnly allowed (optionalString text) ↔
      ((∃ given ∈ text, isBlankText given = true) → allowed (plain "ValueError")) := by
  cases text with
  | none => simp [optionalString]
  | some given =>
    unfold optionalString
    cases blank : isBlankText given <;> simp [blank]

/-- An observation is taken when its texts are not blank, its cost is not negative and its
transport is well formed. -/
theorem Observation.make_eq_ok {given made : Observation} : given.make = .ok made ↔
    (∀ text ∈ given.model, isBlankText text = false) ∧
    (∀ text ∈ given.responseId, isBlankText text = false) ∧
    (∀ text ∈ given.finishReason, isBlankText text = false) ∧
    (∀ cost ∈ given.currencyCostUsd, 0 ≤ cost) ∧ given.transport.WellFormed ∧
    { given with
      model := given.model.map stripText
      responseId := given.responseId.map stripText
      finishReason := given.finishReason.map stripText } = made := by
  simp only [make, bind_eq_ok, refuse_eq_ok, exists_const, pure_eq_ok, optionalString_eq_ok,
    not_not, Option.any_eq_true, decide_eq_true_eq, not_exists, not_and, not_lt]
  constructor
  · rintro ⟨_, ⟨model, rfl⟩, _, ⟨response, rfl⟩, _, ⟨finish, rfl⟩, cost, transport, rfl⟩
    exact ⟨model, response, finish, cost, transport, rfl⟩
  · rintro ⟨model, response, finish, cost, transport, rfl⟩
    exact ⟨_, ⟨model, rfl⟩, _, ⟨response, rfl⟩, _, ⟨finish, rfl⟩, cost, transport, rfl⟩

/-- An observation that is not taken raises `ValueError`. -/
theorem Observation.make_raises (given : Observation) :
    RaisesOnly (fun error => error = plain "ValueError") given.make := by
  simp only [make, raisesOnly_bind, optionalString_raises, raisesOnly_refuse, raisesOnly_pure,
    implies_true, and_true]

end Macr.Providers
