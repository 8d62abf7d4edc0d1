import Macr.Errors
import Macr.Lib.RaisesOnly

/-!
# What checks raise

A check raises its own error or nothing.
-/

namespace Macr

open Lib

variable {allowed : MacrError → Prop} {error : MacrError}

@[simp] theorem raisesOnly_raiseIf {refused : Prop} [Decidable refused] :
    RaisesOnly allowed (raiseIf refused error) ↔ (refused → allowed error) := by
  by_cases holds : refused <;> simp [raiseIf, holds]

@[simp] theorem raisesOnly_require {α : Type} {found : Option α} :
    RaisesOnly allowed (require found error) ↔ (found = none → allowed error) := by
  cases found <;> simp [require]

/-- A `ValueError`. -/
def MacrError.isValueError : MacrError → Bool
  | .valueError _ => true
  | _ => false

@[simp] theorem isValueError_valueError (message : String) :
    (MacrError.valueError message).isValueError = true := rfl

end Macr
