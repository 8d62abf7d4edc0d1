import Mathlib.Data.List.Basic
import Mathlib.Tactic.Common

/-!
# What a computation may raise

A computation that returns or raises is described by the errors it may raise. A sequence raises
only what its first part and the rest behind each of its values raise; a list of computations
raises what the first one that does not return raises.
-/

namespace Macr.Lib

variable {ε α β : Type} {allowed : ε → Prop}

/-- Whatever the computation raises is allowed. -/
def RaisesOnly (allowed : ε → Prop) (result : Except ε α) : Prop :=
  ∀ error, result = .error error → allowed error

@[simp] theorem raisesOnly_ok {value : α} :
    RaisesOnly allowed (.ok value : Except ε α) := by
  simp [RaisesOnly]

@[simp] theorem raisesOnly_pure {value : α} :
    RaisesOnly allowed (pure value : Except ε α) := raisesOnly_ok

@[simp] theorem raisesOnly_error {error : ε} :
    RaisesOnly allowed (.error error : Except ε α) ↔ allowed error := by
  simp [RaisesOnly]

/-- What a computation raises is decided by running it. -/
instance decidableRaisesOnly [DecidablePred allowed] :
    (result : Except ε α) → Decidable (RaisesOnly allowed result)
  | .ok _ => isTrue raisesOnly_ok
  | .error error => decidable_of_iff (allowed error) raisesOnly_error.symm

/-- The rule of sequencing. -/
theorem raisesOnly_bind {first : Except ε α} {next : α → Except ε β} :
    RaisesOnly allowed (first >>= next) ↔
      RaisesOnly allowed first ∧ ∀ value, first = .ok value → RaisesOnly allowed (next value) := by
  cases first with
  | error raised => simp [RaisesOnly, bind, Except.bind]
  | ok value => simp [RaisesOnly, bind, Except.bind]

/-- A value that is mapped raises nothing more. -/
theorem raisesOnly_map {first : Except ε α} {f : α → β} :
    RaisesOnly allowed (f <$> first) ↔ RaisesOnly allowed first := by
  cases first <;> simp [RaisesOnly, Functor.map, Except.map]

/-- The rule of translated errors. -/
theorem raisesOnly_mapError {ε' : Type} {allowed : ε' → Prop} {first : Except ε α}
    {f : ε → ε'} :
    RaisesOnly allowed (first.mapError f) ↔ RaisesOnly (fun error => allowed (f error)) first := by
  cases first <;> simp [RaisesOnly, Except.mapError]

/-- A value is returned whatever errors are translated to. -/
@[simp] theorem mapError_eq_ok {ε' : Type} {first : Except ε α} {f : ε → ε'} {value : α} :
    first.mapError f = .ok value ↔ first = .ok value := by
  cases first <;> simp [Except.mapError]

/-- A list of computations raises what one raises when all before it return. -/
theorem raisesOnly_mapM {f : α → Except ε β} {items : List α} :
    RaisesOnly allowed (items.mapM f) ↔
      ∀ before item after, items = before ++ item :: after →
        (∀ other ∈ before, ∃ value, f other = .ok value) → RaisesOnly allowed (f item) := by
  induction items with
  | nil => simp
  | cons first rest ih =>
    rw [List.mapM_cons, raisesOnly_bind]
    constructor
    · rintro ⟨here, later⟩ before item after same returned
      cases before with
      | nil =>
        obtain ⟨rfl, rfl⟩ := List.cons.inj same
        exact here
      | cons head tail =>
        obtain ⟨rfl, rfl⟩ := List.cons.inj same
        obtain ⟨value, done⟩ := returned first List.mem_cons_self
        exact ih.mp (raisesOnly_bind.mp (later value done)).1 tail item after rfl
          fun other member => returned other (List.mem_cons_of_mem first member)
    · intro each
      refine ⟨each [] first rest rfl nofun, fun value done => ?_⟩
      refine raisesOnly_bind.mpr ⟨ih.mpr ?_, fun _ _ => raisesOnly_ok⟩
      rintro before item after rfl returned
      exact each (first :: before) item after rfl
        (List.forall_mem_cons.mpr ⟨⟨value, done⟩, returned⟩)

end Macr.Lib
