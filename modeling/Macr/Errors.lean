import Mathlib.Tactic.Common

/-!
# Raised errors and transactions

Every store call runs in one write transaction that ends in one of three ways: it commits and
returns, it commits and then raises, or it raises and rolls back. The first two are kept apart
from the third because several operations persist evidence before they refuse.
-/

namespace Macr

/-- The exception classes the modelled operations raise, with the source's message. -/
inductive MacrError where
  | valueError (message : String)
  | typeError (message : String)
  | assertionError
  | dispatchAuthorization (message : String)
  | dispatchLease (message : String)
  | eventStoreConflict (message : String)
  | providerAdmissionBusy (message : String)
  | providerAdmissionConflict (message : String)
  | providerAdmissionReconciliation (message : String)
  | providerAdmissionRequired (message : String)
  | t1Dispatch (message : String)
  | accountingConflict (message : String)
  | observatoryConflict (message : String)
  | legacyLedger (message : String)
  | evidenceImport (message : String)
  /-- An `AgentStateKernelError`, by its code. -/
  | agentState (code message : String)
  /-- A `SemanticStateError`, by its code. -/
  | semanticState (code message : String)
  /-- A `HostedAgentCellError`, by its class. -/
  | hostedCell (className message : String)
  /-- An error of any other class of the source. -/
  | named (className message : String)
  /-- `sqlite3.IntegrityError`: a primary-key or unique constraint refuses a row. -/
  | integrity
  /-- Any other failure of a store or of code outside the model, by class name. -/
  | other (className : String)
deriving DecidableEq, Repr

/-- The name of an error's class. -/
def MacrError.className : MacrError → String
  | .valueError _ => "ValueError"
  | .typeError _ => "TypeError"
  | .assertionError => "AssertionError"
  | .dispatchAuthorization _ => "DispatchAuthorizationError"
  | .dispatchLease _ => "DispatchLeaseError"
  | .eventStoreConflict _ => "EventStoreConflict"
  | .providerAdmissionBusy _ => "ProviderAdmissionBusyError"
  | .providerAdmissionConflict _ => "ProviderAdmissionConflict"
  | .providerAdmissionReconciliation _ => "ProviderAdmissionReconciliationError"
  | .providerAdmissionRequired _ => "ProviderAdmissionRequiredError"
  | .t1Dispatch _ => "T1DispatchError"
  | .accountingConflict _ => "AccountingConflict"
  | .observatoryConflict _ => "ObservatoryConflict"
  | .legacyLedger _ => "LegacyLedgerError"
  | .evidenceImport _ => "EvidenceImportError"
  | .agentState _ _ => "AgentStateKernelError"
  | .semanticState _ _ => "SemanticStateError"
  | .hostedCell className _ => className
  | .named className _ => className
  | .integrity => "IntegrityError"
  | .other className => className

/-- `ProviderPolicyError` and its subclasses. -/
def providerPolicyClasses : List String :=
  ["ProviderPolicyError", "ProviderPreNetworkError", "ProviderTaskTypeError",
    "ProviderOutputBudgetTooSmallError"]

/-- `ProviderAdmissionError` and its subclasses. -/
def providerAdmissionClasses : List String :=
  ["ProviderAdmissionError", "ProviderAdmissionBusyError", "ProviderAdmissionReconciliationError",
    "ProviderAdmissionConflict", "ProviderAdmissionRequiredError"]

/-- The subclasses of the source's `MacrError` that a dispatch can meet. -/
def macrErrorClasses : List String :=
  providerPolicyClasses ++ providerAdmissionClasses ++
    ["MacrError", "ConfigurationError", "StoragePolicyError", "ProviderUnavailableError",
      "ProviderProtocolError", "ProviderReasoningBudgetExhaustedError", "EventStoreConflict",
      "LegacyLedgerError", "DispatchAuthorizationError", "DispatchLeaseError", "CandidateConflict",
      "TaskContradictionError", "AccountingConflict", "DirectStoreConflict",
      "LegacyDirectTokenPolicyIncompatibleError", "ObservatoryConflict", "CoordinatorPolicyError",
      "LegacyPreTierIncompatibleError", "LegacyOutputPolicyIncompatibleError",
      "LegacyFixedWorkerTopologyIncompatibleError", "PlanExecutionError", "RouteResolutionError",
      "T1DispatchError", "AgentStateKernelError", "SemanticStateError"]

/-- The error is a `ProviderPolicyError`. -/
def MacrError.isProviderPolicy (error : MacrError) : Bool := error.className ∈ providerPolicyClasses

/-- The error is a `ProviderAdmissionError`. -/
def MacrError.isProviderAdmission (error : MacrError) : Bool :=
  error.className ∈ providerAdmissionClasses

/-- The error is a `MacrError` of the source. -/
def MacrError.isMacrError (error : MacrError) : Bool := error.className ∈ macrErrorClasses

/-- A committed state, with the value returned or the error raised after the commit. A
transaction body that raises before it commits rolls back. -/
abbrev Committed (σ α : Type) := σ × Except MacrError α

/-- Commit and return. -/
def commit {σ α : Type} (db : σ) (value : α) : Except MacrError (Committed σ α) :=
  .ok (db, .ok value)

/-- Commit, then raise. -/
def commitRaise {σ α : Type} (db : σ) (error : MacrError) : Except MacrError (Committed σ α) :=
  .ok (db, .error error)

/-- The state and the caller's result after a transaction. -/
def settle {σ α : Type} (db : σ) : Except MacrError (Committed σ α) → Committed σ α
  | .ok result => result
  | .error error => (db, .error error)

/-- Raise when a refusal condition holds. -/
def raiseIf (refused : Prop) [Decidable refused] (error : MacrError) : Except MacrError Unit :=
  if refused then .error error else .ok ()

/-- The value of a lookup, or the error of its absence. -/
def require {α : Type} (found : Option α) (error : MacrError) : Except MacrError α :=
  match found with
  | some value => .ok value
  | none => .error error

/-- `except sqlite3.IntegrityError`. -/
def onIntegrity {α : Type} (error : MacrError) : Except MacrError α → Except MacrError α
  | .error .integrity => .error error
  | result => result

/-- A bind of two raising computations succeeds exactly when both do. -/
theorem bind_eq_ok {α β : Type} {first : Except MacrError α} {next : α → Except MacrError β}
    {value : β} : (first >>= next) = .ok value ↔ ∃ a, first = .ok a ∧ next a = .ok value := by
  cases first <;> simp [bind, Except.bind]

/-- A bind raises what its first part raises, or what the rest raises. -/
theorem bind_eq_error {α β : Type} {first : Except MacrError α} {next : α → Except MacrError β}
    {error : MacrError} : (first >>= next) = .error error ↔
      first = .error error ∨ ∃ a, first = .ok a ∧ next a = .error error := by
  cases first <;> simp [bind, Except.bind]

/-- A bind does not raise an error that neither part raises. -/
theorem bind_ne_error {α β : Type} {first : Except MacrError α} {next : α → Except MacrError β}
    {error : MacrError} (avoided : first ≠ .error error)
    (later : ∀ a, first = .ok a → next a ≠ .error error) : (first >>= next) ≠ .error error := by
  rw [ne_eq, bind_eq_error, not_or]
  exact ⟨avoided, fun ⟨a, ok, raised⟩ => later a ok raised⟩

/-- Returning a value succeeds with that value. -/
theorem pure_eq_ok {α : Type} {given value : α} :
    (pure given : Except MacrError α) = .ok value ↔ given = value := by
  simp [pure, Except.pure]

@[simp] theorem commit_eq_ok {σ α : Type} {db : σ} {value : α} {result : Committed σ α} :
    commit db value = .ok result ↔ result = (db, .ok value) := by
  simp [commit, eq_comm]

@[simp] theorem commitRaise_eq_ok {σ α : Type} {db : σ} {error : MacrError}
    {result : Committed σ α} : commitRaise db error = .ok result ↔ result = (db, .error error) := by
  simp [commitRaise, eq_comm]


@[simp] theorem raiseIf_eq_ok {refused : Prop} [Decidable refused] {error : MacrError}
    {value : Unit} : raiseIf refused error = .ok value ↔ ¬refused := by
  by_cases h : refused <;> simp [raiseIf, h]

@[simp] theorem raiseIf_eq_error {refused : Prop} [Decidable refused] {error raised : MacrError} :
    raiseIf refused error = .error raised ↔ refused ∧ error = raised := by
  by_cases h : refused <;> simp [raiseIf, h]

@[simp] theorem require_eq_error {α : Type} {found : Option α} {error raised : MacrError} :
    require found error = .error raised ↔ found = none ∧ error = raised := by
  cases found <;> simp [require]

@[simp] theorem require_eq_ok {α : Type} {found : Option α} {error : MacrError} {value : α} :
    require found error = .ok value ↔ found = some value := by
  cases found <;> simp [require]

/-- The integrity handler succeeds exactly when its body does. -/
theorem onIntegrity_eq_ok {α : Type} {error : MacrError} {result : Except MacrError α} {value : α} :
    onIntegrity error result = .ok value ↔ result = .ok value := by
  cases result with
  | ok other => rfl
  | error raised => cases raised <;> simp [onIntegrity]

/-- A refusal does not raise another error. -/
theorem raiseIf_ne_error {refused : Prop} [Decidable refused] {error other : MacrError}
    (different : error ≠ other) : raiseIf refused error ≠ .error other := by
  rw [ne_eq, raiseIf_eq_error]
  exact fun raised => different raised.2

/-- A lookup does not raise another error. -/
theorem require_ne_error {α : Type} {found : Option α} {error other : MacrError}
    (different : error ≠ other) : require found error ≠ .error other := by
  rw [ne_eq, require_eq_error]
  exact fun raised => different raised.2

/-- A mapped computation raises what the computation raises. -/
theorem except_map_ne_error {α β : Type} {f : α → β} {first : Except MacrError α}
    {error : MacrError} (avoided : first ≠ .error error) : first.map f ≠ .error error := by
  cases first with
  | ok value => simp [Except.map]
  | error raised => simpa [Except.map] using avoided

/-- A mapped list raises no error that no item raises. -/
theorem mapM_ne_error {α β : Type} {f : α → Except MacrError β} {error : MacrError}
    (avoided : ∀ a, f a ≠ .error error) (items : List α) : items.mapM f ≠ .error error := by
  induction items with
  | nil => simp [pure, Except.pure]
  | cons item rest ih =>
    rw [List.mapM_cons]
    refine bind_ne_error (avoided item) fun _ _ => bind_ne_error ih fun _ _ => ?_
    simp [pure, Except.pure]

/-- A mapped computation succeeds exactly when the computation does. -/
theorem except_map_eq_ok {α β : Type} {f : α → β} {first : Except MacrError α} {value : β} :
    first.map f = .ok value ↔ ∃ a, first = .ok a ∧ f a = value := by
  cases first <;> simp [Except.map]

/-- The loop rule: what each turn keeps of the accumulator and the items ahead holds when the
loop ends. -/
theorem foldlM_invariant {σ α : Type} {body : σ → α → Except MacrError σ}
    (Inv : σ → List α → Prop)
    (turn : ∀ acc item rest next, Inv acc (item :: rest) → body acc item = .ok next →
      Inv next rest) {items : List α} {acc result : σ} (start : Inv acc items)
    (done : items.foldlM body acc = .ok result) : Inv result [] := by
  induction items generalizing acc with
  | nil =>
    rw [List.foldlM_nil, pure_eq_ok] at done
    exact done ▸ start
  | cons item rest ih =>
    rw [List.foldlM_cons, bind_eq_ok] at done
    obtain ⟨next, turned, later⟩ := done
    exact ih (turn acc item rest next start turned) later

/-- The loop rule for errors: a loop raises no error that no turn raises. -/
theorem foldlM_ne_error {σ α : Type} {body : σ → α → Except MacrError σ}
    (Inv : σ → List α → Prop) {error : MacrError}
    (turn : ∀ acc item rest next, Inv acc (item :: rest) → body acc item = .ok next →
      Inv next rest)
    (avoided : ∀ acc item rest, Inv acc (item :: rest) → body acc item ≠ .error error)
    {items : List α} {acc : σ} (start : Inv acc items) :
    items.foldlM body acc ≠ .error error := by
  induction items generalizing acc with
  | nil => simp [pure, Except.pure]
  | cons item rest ih =>
    rw [List.foldlM_cons]
    exact bind_ne_error (avoided acc item rest start)
      (fun next turned => ih (turn acc item rest next start turned))

/-- The loop rule for success: a loop whose turns succeed ends, in what each turn keeps. -/
theorem foldlM_succeeds {σ α : Type} {body : σ → α → Except MacrError σ}
    (Inv : σ → List α → Prop)
    (turn : ∀ acc item rest, Inv acc (item :: rest) →
      ∃ next, body acc item = .ok next ∧ Inv next rest)
    {items : List α} {acc : σ} (start : Inv acc items) :
    ∃ result, items.foldlM body acc = .ok result ∧ Inv result [] := by
  induction items generalizing acc with
  | nil => exact ⟨acc, rfl, start⟩
  | cons item rest ih =>
    obtain ⟨next, turned, kept⟩ := turn acc item rest start
    obtain ⟨result, looped, ended⟩ := ih kept
    refine ⟨result, ?_, ended⟩
    rw [List.foldlM_cons, turned]
    exact looped

/-- Refusals under equivalent conditions, with the same rest where neither refuses. -/
theorem raiseIf_bind_congr {α : Type} {refused other : Prop} [Decidable refused]
    [Decidable other] {error : MacrError} {next later : Unit → Except MacrError α}
    (same : refused ↔ other) (rest : ¬refused → next () = later ()) :
    (raiseIf refused error >>= next) = (raiseIf other error >>= later) := by
  by_cases h : refused
  · simp [raiseIf, h, same.mp h, bind, Except.bind]
  · have allowed : ¬other := fun holds => h (same.mpr holds)
    simp [raiseIf, h, allowed, bind, Except.bind, rest h]

/-- A refusal ends the computation. -/
theorem raiseIf_bind_of {α : Type} {refused : Prop} [Decidable refused] {error : MacrError}
    {next : Unit → Except MacrError α} (holds : refused) :
    (raiseIf refused error >>= next) = .error error := by
  simp [raiseIf, holds, bind, Except.bind]

/-- A refusal that does not apply is passed over. -/
theorem raiseIf_bind_of_not {α : Type} {refused : Prop} [Decidable refused] {error : MacrError}
    {next : Unit → Except MacrError α} (allowed : ¬refused) :
    (raiseIf refused error >>= next) = next () := by
  simp [raiseIf, allowed, bind, Except.bind]

/-- A lookup that answers passes its value on. -/
theorem require_some_bind {α β : Type} {value : α} {error : MacrError}
    {next : α → Except MacrError β} :
    (require (some value) error >>= next) = next value := rfl

/-- A computation that succeeds passes its value on. -/
theorem ok_bind {α β : Type} {value : α} {next : α → Except MacrError β} :
    ((.ok value : Except MacrError α) >>= next) = next value := rfl

end Macr
