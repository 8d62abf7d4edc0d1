import Mathlib.Data.List.Basic
import Mathlib.Order.Defs.PartialOrder
import Mathlib.Tactic.Common

/-!
# Runs of a deterministic machine

All nondeterminism of a system (who acts, which clock is read, what fails) is in the action, so
a run is a list of actions and "every run" is a quantifier over lists. A run may be required to
obey a condition on each step's state and action. The three rules here carry every history
argument: an invariant, a fact about one step of a run, and a relation between an earlier and
a later step of one run. A fourth says which runs keep a property throughout.
-/

namespace Macr.Lib

/-- A total transition function. -/
structure Machine (σ α : Type) where
  /-- The state after one action; a refused action returns its state. -/
  step : σ → α → σ

namespace Machine

variable {σ α : Type}

/-- One executed action with the states around it. -/
structure Step (σ α : Type) where
  /-- The state the action met. -/
  before : σ
  /-- The action. -/
  action : α
  /-- The state it left. -/
  after : σ

variable (m : Machine σ α)

/-- The state after a list of actions. -/
def run : σ → List α → σ
  | s, [] => s
  | s, a :: rest => run (m.step s a) rest

/-- The executed steps of a list of actions, in order. -/
def steps : σ → List α → List (Step σ α)
  | _, [] => []
  | s, a :: rest => ⟨s, a, m.step s a⟩ :: steps (m.step s a) rest

/-- Every action of the run meets a condition on the state it is applied in. -/
def Obeys (allowed : σ → α → Prop) : σ → List α → Prop
  | _, [] => True
  | s, a :: rest => allowed s a ∧ Obeys allowed (m.step s a) rest

@[simp] theorem run_nil (s : σ) : m.run s [] = s := rfl

@[simp] theorem run_cons (s : σ) (a : α) (rest : List α) :
    m.run s (a :: rest) = m.run (m.step s a) rest := rfl

/-- A run of two lists is a run of the second from the end of the first. -/
theorem run_append (s : σ) (first second : List α) :
    m.run s (first ++ second) = m.run (m.run s first) second := by
  induction first generalizing s with
  | nil => rfl
  | cons a rest ih => exact ih (m.step s a)

/-- A run with one more action is one step from its end. -/
theorem run_concat (s : σ) (actions : List α) (a : α) :
    m.run s (actions ++ [a]) = m.step (m.run s actions) a := by
  rw [run_append]
  rfl

/-- The steps of two lists are those of the first, then those of the second from its end. -/
theorem steps_append (s : σ) (first second : List α) :
    m.steps s (first ++ second) = m.steps s first ++ m.steps (m.run s first) second := by
  induction first generalizing s with
  | nil => rfl
  | cons a rest ih => exact congrArg _ (ih (m.step s a))

/-- Obedience to a decidable condition is decidable. -/
instance decidableObeys {allowed : σ → α → Prop} [∀ s a, Decidable (allowed s a)] :
    (s : σ) → (actions : List α) → Decidable (m.Obeys allowed s actions)
  | _, [] => isTrue trivial
  | s, a :: rest =>
    @instDecidableAnd _ _ (inferInstanceAs (Decidable (allowed s a)))
      (decidableObeys (m.step s a) rest)

/-- Both parts of an obedient run are obedient. -/
theorem obeys_append {allowed : σ → α → Prop} {s : σ} {first second : List α} :
    m.Obeys allowed s (first ++ second) ↔
      m.Obeys allowed s first ∧ m.Obeys allowed (m.run s first) second := by
  induction first generalizing s with
  | nil => simp [Obeys]
  | cons a rest ih => simp [Obeys, ih, and_assoc]

/-- A run obeys a condition that every step meets. -/
theorem obeys_of_forall {allowed : σ → α → Prop} (always : ∀ s a, allowed s a) (s : σ)
    (actions : List α) : m.Obeys allowed s actions := by
  induction actions generalizing s with
  | nil => trivial
  | cons a rest ih => exact ⟨always s a, ih _⟩

/-- A run obeys a condition on actions that each of its actions meets. -/
theorem obeys_of_mem {allowed : α → Prop} {actions : List α} (each : ∀ a ∈ actions, allowed a)
    (s : σ) : m.Obeys (fun _ a => allowed a) s actions := by
  induction actions generalizing s with
  | nil => trivial
  | cons a rest ih =>
    have later : ∀ b ∈ rest, allowed b := fun b member => each b (List.mem_cons_of_mem a member)
    exact ⟨each a List.mem_cons_self, ih later _⟩

/-- Each executed step of an obedient run is an allowed one. -/
theorem steps_obey {allowed : σ → α → Prop} {s : σ} {actions : List α}
    (obeys : m.Obeys allowed s actions) : ∀ x ∈ m.steps s actions, allowed x.before x.action := by
  induction actions generalizing s with
  | nil => intro x member; simp [steps] at member
  | cons a rest ih =>
    intro x member
    rcases List.mem_cons.mp member with rfl | later
    · exact obeys.1
    · exact ih obeys.2 x later

/-- The invariant rule: what every allowed step keeps holds at the end of an obedient run. -/
theorem run_invariant {Inv : σ → Prop} {allowed : σ → α → Prop}
    (keep : ∀ s a, Inv s → allowed s a → Inv (m.step s a)) {s : σ} (start : Inv s)
    {actions : List α} (obeys : m.Obeys allowed s actions) : Inv (m.run s actions) := by
  induction actions generalizing s with
  | nil => exact start
  | cons a rest ih => exact ih (keep s a start obeys.1) obeys.2

/-- The invariant rule for runs under no condition. -/
theorem run_invariant_all {Inv : σ → Prop} (keep : ∀ s a, Inv s → Inv (m.step s a)) {s : σ}
    (start : Inv s) (actions : List α) : Inv (m.run s actions) := by
  have free : m.Obeys (fun _ _ => True) s actions := m.obeys_of_forall (fun _ _ => trivial) s actions
  exact m.run_invariant (fun s a held _ => keep s a held) start free

/-- The step rule: each executed step starts in the invariant, with an allowed action. -/
theorem steps_invariant {Inv : σ → Prop} {allowed : σ → α → Prop}
    (keep : ∀ s a, Inv s → allowed s a → Inv (m.step s a)) {s : σ} (start : Inv s)
    {actions : List α} (obeys : m.Obeys allowed s actions) :
    ∀ x ∈ m.steps s actions,
      Inv x.before ∧ allowed x.before x.action ∧ x.after = m.step x.before x.action := by
  induction actions generalizing s with
  | nil => intro x member; simp [steps] at member
  | cons a rest ih =>
    intro x member
    rcases List.mem_cons.mp member with rfl | later
    · exact ⟨start, obeys.1, rfl⟩
    · exact ih (keep s a start obeys.1) obeys.2 x later

/-- The observation rule: what is observed at a place of a run is observed at one of its steps,
with as many observations in the run up to there, which begin those of the whole run. -/
theorem observed_at {β : Type} (observe : Step σ α → Option β) {s : σ} {actions : List α}
    {index : Nat} {seen : β}
    (found : ((m.steps s actions).filterMap observe)[index]? = some seen) :
    ∃ first a rest, actions = first ++ a :: rest ∧
      observe ⟨m.run s first, a, m.step (m.run s first) a⟩ = some seen ∧
      ((m.steps s first).filterMap observe).length = index ∧
      (m.steps s first).filterMap observe <+: (m.steps s actions).filterMap observe := by
  induction actions generalizing s index with
  | nil => simp [steps] at found
  | cons a rest ih =>
    -- Either the first step is the one observed, or the place lies in the rest of the run.
    have ahead : ∀ later, ((m.steps (m.step s a) rest).filterMap observe)[later]? = some seen →
        ∃ first b after, a :: rest = (a :: first) ++ b :: after ∧
          observe ⟨m.run s (a :: first), b, m.step (m.run s (a :: first)) b⟩ = some seen ∧
          ((m.steps (m.step s a) first).filterMap observe).length = later ∧
          (m.steps (m.step s a) first).filterMap observe <+:
            (m.steps (m.step s a) rest).filterMap observe := by
      intro later foundLater
      obtain ⟨first, b, after, same, seenThere, length, begins⟩ := ih foundLater
      exact ⟨first, b, after, by rw [same]; rfl, seenThere, length, begins⟩
    cases here : observe ⟨s, a, m.step s a⟩ with
    | none =>
      rw [steps, List.filterMap_cons_none here] at found ⊢
      obtain ⟨first, b, after, same, seenThere, length, begins⟩ := ahead index found
      refine ⟨a :: first, b, after, same, seenThere, ?_, ?_⟩
      · rw [steps, List.filterMap_cons_none here]
        exact length
      · rw [steps, List.filterMap_cons_none here]
        exact begins
    | some value =>
      rw [steps, List.filterMap_cons_some here] at found ⊢
      cases index with
      | zero =>
        rw [List.getElem?_cons_zero, Option.some.injEq] at found
        exact ⟨[], a, rest, rfl, by rw [← found]; exact here, rfl, List.nil_prefix⟩
      | succ later =>
        rw [List.getElem?_cons_succ] at found
        obtain ⟨first, b, after, same, seenThere, length, begins⟩ := ahead later found
        refine ⟨a :: first, b, after, same, seenThere, ?_, ?_⟩
        · rw [steps, List.filterMap_cons_some here, List.length_cons, length]
        · rw [steps, List.filterMap_cons_some here]
          exact List.cons_prefix_cons.mpr ⟨rfl, begins⟩

/-- Each executed step ends where its action leads. -/
theorem after_of_steps (s : σ) (actions : List α) :
    ∀ x ∈ m.steps s actions, x.after = m.step x.before x.action := by
  induction actions generalizing s with
  | nil => intro x member; simp [steps] at member
  | cons a rest ih =>
    intro x member
    rcases List.mem_cons.mp member with rfl | later
    · rfl
    · exact ih (m.step s a) x later

/-- The growth rule: a measure that no step lowers lies, in front of every executed step, between
its values at the start and at the end of the run. -/
theorem steps_measure {β : Type} [Preorder β] (measure : σ → β)
    (grows : ∀ s a, measure s ≤ measure (m.step s a)) (s : σ) (actions : List α) :
    measure s ≤ measure (m.run s actions) ∧ ∀ x ∈ m.steps s actions,
      measure s ≤ measure x.before ∧ measure x.before ≤ measure (m.run s actions) := by
  induction actions generalizing s with
  | nil => exact ⟨le_refl _, fun x member => absurd member (by simp [steps])⟩
  | cons a rest ih =>
    obtain ⟨whole, parts⟩ := ih (m.step s a)
    have all : measure s ≤ measure (m.run (m.step s a) rest) := le_trans (grows s a) whole
    refine ⟨all, fun x member => ?_⟩
    rcases List.mem_cons.mp member with rfl | later
    · exact ⟨le_refl _, all⟩
    · exact ⟨le_trans (grows s a) (parts x later).1, (parts x later).2⟩

/-- The history rule: when a step leaves a record in the state, the record is never lost and a
state that holds the record of an earlier step relates it to every later one, the relation
holds between any two steps of the run in their order. -/
theorem steps_pairwise {Inv : σ → Prop} {allowed : σ → α → Prop}
    (keep : ∀ s a, Inv s → allowed s a → Inv (m.step s a)) {s : σ} (start : Inv s)
    {actions : List α} (obeys : m.Obeys allowed s actions)
    {related : Step σ α → Step σ α → Prop} (record : Step σ α → σ → Prop)
    (leaves : ∀ s a, Inv s → allowed s a → record ⟨s, a, m.step s a⟩ (m.step s a))
    (lasts : ∀ x s a, Inv s → allowed s a → record x s → record x (m.step s a))
    (relates : ∀ x s a, Inv s → allowed s a → record x s → related x ⟨s, a, m.step s a⟩) :
    (m.steps s actions).Pairwise related := by
  -- A recorded step is related to every step of the rest, whatever the rest is.
  have ahead : ∀ (x : Step σ α) (rest : List α) (s : σ), Inv s → m.Obeys allowed s rest →
      record x s → ∀ y ∈ m.steps s rest, related x y := by
    intro x rest
    induction rest with
    | nil => intro s _ _ _ y member; simp [steps] at member
    | cons a rest ih =>
      intro s held obeys recorded y member
      rcases List.mem_cons.mp member with rfl | later
      · exact relates x s a held obeys.1 recorded
      · exact ih (m.step s a) (keep s a held obeys.1) obeys.2
          (lasts x s a held obeys.1 recorded) y later
  induction actions generalizing s with
  | nil => exact List.Pairwise.nil
  | cons a rest ih =>
    have held := keep s a start obeys.1
    exact List.Pairwise.cons
      (ahead _ rest _ held obeys.2 (leaves s a start obeys.1)) (ih held obeys.2)

/-- The history rule for runs under no condition. -/
theorem steps_pairwise_all {related : Step σ α → Step σ α → Prop} (record : Step σ α → σ → Prop)
    (leaves : ∀ s a, record ⟨s, a, m.step s a⟩ (m.step s a))
    (lasts : ∀ x s a, record x s → record x (m.step s a))
    (relates : ∀ x s a, record x s → related x ⟨s, a, m.step s a⟩) (s : σ) (actions : List α) :
    (m.steps s actions).Pairwise related := by
  have keep : ∀ s a, (fun _ : σ => True) s → (fun (_ : σ) (_ : α) => True) s a →
      (fun _ : σ => True) (m.step s a) := fun _ _ _ _ => trivial
  have free : m.Obeys (fun _ _ => True) s actions := m.obeys_of_forall (fun _ _ => trivial) s actions
  exact m.steps_pairwise keep trivial free record (fun s a _ _ => leaves s a)
    (fun x s a _ _ => lasts x s a) (fun x s a _ _ => relates x s a)

/-- The exactness rule: where a step keeps a property exactly when its action is allowed, the
property holds throughout a run exactly when the run obeys. -/
theorem holds_throughout_iff_obeys {Inv Good : σ → Prop} {allowed : σ → α → Prop}
    (keep : ∀ s a, Inv s → Inv (m.step s a))
    (exact : ∀ s a, Inv s → Good s → (Good (m.step s a) ↔ allowed s a)) {s : σ} (start : Inv s)
    (good : Good s) (actions : List α) :
    (∀ first rest, actions = first ++ rest → Good (m.run s first)) ↔
      m.Obeys allowed s actions := by
  constructor
  · intro throughout
    induction actions generalizing s with
    | nil => trivial
    | cons a later ih =>
      have next : Good (m.step s a) := throughout [a] later rfl
      have ahead : ∀ first rest, later = first ++ rest → Good (m.run (m.step s a) first) := by
        intro first rest same
        exact throughout (a :: first) rest (by rw [same]; rfl)
      exact ⟨(exact s a start good).mp next, ih (keep s a start) next ahead⟩
  · intro obeys first rest same
    have held : Inv (m.run s first) ∧ Good (m.run s first) := by
      rw [same, m.obeys_append] at obeys
      have both : ∀ s a, Inv s ∧ Good s → allowed s a → Inv (m.step s a) ∧ Good (m.step s a) := by
        intro s a held permitted
        exact ⟨keep s a held.1, (exact s a held.1 held.2).mpr permitted⟩
      exact m.run_invariant both ⟨start, good⟩ obeys.1
    exact held.2

end Machine
end Macr.Lib
