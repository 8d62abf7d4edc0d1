import Mathlib.Tactic.Common

/-!
# Computations that raise

A computation over a state returns a value or raises an error, and leaves the state it reached
either way: a raise undoes nothing. A handler runs on the state of the raise, and what has to be
done at the end runs on the state of either end and may itself raise in place of it. What a
computation ends in is computed rule by rule; what every part keeps, the whole keeps.
-/

namespace Macr.Lib

variable {σ ε α β : Type}

/-- A computation over a state that returns or raises. -/
def Raising (σ ε α : Type) : Type := σ → Except ε α × σ

namespace Raising

/-- Return a value. -/
def ret (value : α) : Raising σ ε α := fun state => (.ok value, state)

/-- Raise an error. -/
def raise (error : ε) : Raising σ ε α := fun state => (.error error, state)

/-- One computation after another; a raise skips the rest. -/
def seq (first : Raising σ ε α) (next : α → Raising σ ε β) : Raising σ ε β := fun state =>
  match first state with
  | (.ok value, reached) => next value reached
  | (.error error, reached) => (.error error, reached)

instance : Monad (Raising σ ε) where
  pure := ret
  bind := seq

/-- `try: body except: handler`. -/
def handle (body : Raising σ ε α) (handler : ε → Raising σ ε α) : Raising σ ε α := fun state =>
  match body state with
  | (.ok value, reached) => (.ok value, reached)
  | (.error error, reached) => handler error reached

/-- `try: body finally: closing`. -/
def ensuring (body : Raising σ ε α) (closing : Raising σ ε Unit) : Raising σ ε α := fun state =>
  match body state with
  | (outcome, reached) =>
    match closing reached with
    | (.ok _, left) => (outcome, left)
    | (.error error, left) => (.error error, left)

/-- A result that does not depend on the state. -/
def lift (result : Except ε α) : Raising σ ε α := fun state => (result, state)

/-- A value read off the state. -/
def read (view : σ → α) : Raising σ ε α := fun state => (.ok (view state), state)

/-- A change of the state. -/
def modify (change : σ → σ) : Raising σ ε Unit := fun state => (.ok (), change state)

/-- A transaction: unless it fails beforehand it commits a state with a value or an error, or it
raises and leaves the state. -/
def transact (fault : Option ε) (body : σ → Except ε (σ × Except ε α)) : Raising σ ε α :=
  fun state =>
    match fault with
    | some error => (.error error, state)
    | none =>
      match body state with
      | .ok (reached, outcome) => (outcome, reached)
      | .error error => (.error error, state)

/-! ## Computations that return -/

variable {state left : σ} {value : α}

/-- A sequence returns when both its parts do. -/
theorem seq_eq_ok {first : Raising σ ε α} {next : α → Raising σ ε β} {last : β} :
    (first >>= next) state = (.ok last, left) ↔
      ∃ given reached, first state = (.ok given, reached) ∧ next given reached = (.ok last, left) := by
  show seq first next state = _ ↔ _
  unfold seq
  rcases first state with ⟨error | given, reached⟩ <;> simp

/-- A value is returned on the state it was given. -/
theorem pure_eq_ok {given : α} :
    (pure given : Raising σ ε α) state = (.ok value, left) ↔ given = value ∧ state = left := by
  show ((.ok given, state) : Except ε α × σ) = _ ↔ _
  simp

/-- A value is read on the state it was given. -/
theorem read_eq_ok {view : σ → α} :
    (read view : Raising σ ε α) state = (.ok value, left) ↔ view state = value ∧ state = left := by
  simp [read]

/-- A transaction returns when it commits with a value. -/
theorem transact_eq_ok {fault : Option ε} {body : σ → Except ε (σ × Except ε α)} :
    transact fault body state = (.ok value, left) ↔
      fault = none ∧ body state = .ok (left, .ok value) := by
  unfold transact
  cases fault with
  | some error => simp
  | none =>
    rcases body state with error | ⟨reached, outcome⟩
    · simp
    · simp [and_comm]

/-! ## What a computation keeps -/

/-- Whatever a computation ends in, its state is related to the one it started from. -/
def Keeps (R : σ → σ → Prop) (action : Raising σ ε α) : Prop := ∀ state, R state (action state).2

variable {R : σ → σ → Prop}

theorem keeps_bind [IsTrans σ R] {first : Raising σ ε α} {next : α → Raising σ ε β}
    (here : Keeps R first) (later : ∀ value, Keeps R (next value)) : Keeps R (first >>= next) := by
  intro state
  have start := here state
  show R state (seq first next state).2
  simp only [seq]
  generalize first state = ended at start ⊢
  rcases ended with ⟨error | value, reached⟩
  · exact start
  · exact IsTrans.trans _ _ _ start (later value reached)

/-- A sequence keeps what its first part keeps, and its second where the first returns. -/
theorem keeps_bind_of [IsTrans σ R] {first : Raising σ ε α} {next : α → Raising σ ε β}
    (here : Keeps R first) (later : ∀ state value reached, first state = (.ok value, reached) →
      R reached (next value reached).2) : Keeps R (first >>= next) := by
  intro state
  have start := here state
  have finish := later state
  show R state (seq first next state).2
  simp only [seq]
  generalize first state = ended at start finish ⊢
  rcases ended with ⟨error | value, reached⟩
  · exact start
  · exact IsTrans.trans _ _ _ start (finish value reached rfl)

theorem keeps_handle [IsTrans σ R] {body : Raising σ ε α} {handler : ε → Raising σ ε α}
    (here : Keeps R body) (later : ∀ error, Keeps R (handler error)) :
    Keeps R (handle body handler) := by
  intro state
  have start := here state
  simp only [handle]
  generalize body state = ended at start ⊢
  rcases ended with ⟨error | value, reached⟩
  · exact IsTrans.trans _ _ _ start (later error reached)
  · exact start

theorem keeps_ensuring [IsTrans σ R] {body : Raising σ ε α} {closing : Raising σ ε Unit}
    (here : Keeps R body) (later : Keeps R closing) : Keeps R (ensuring body closing) := by
  intro state
  have start := here state
  have finish := later (body state).2
  simp only [ensuring]
  generalize closing (body state).2 = closed at finish ⊢
  rcases closed with ⟨error | done, left⟩ <;>
    exact IsTrans.trans _ _ _ start finish

end Raising
end Macr.Lib
