import Mathlib.Data.List.Forall2
import Mathlib.Tactic.Common

/-!
# Raising computations, one for each item

A list of computations succeeds exactly when each does, and its results correspond to its items.
-/

namespace Macr.Lib

variable {ε α β : Type} {f : α → Except ε β}

/-- A mapped list succeeds when every item does, with the results of the items. -/
theorem mapM_eq_ok_iff {items : List α} {results : List β} :
    items.mapM f = .ok results ↔
      List.Forall₂ (fun item result => f item = .ok result) items results := by
  induction items generalizing results with
  | nil =>
    rw [List.forall₂_nil_left_iff]
    simp [pure, Except.pure, eq_comm]
  | cons item rest ih =>
    rw [List.forall₂_cons_left_iff, List.mapM_cons]
    cases first : f item with
    | error raised => simp [bind, Except.bind]
    | ok value =>
      cases later : rest.mapM f with
      | error raised =>
        simp only [bind, Except.bind, reduceCtorEq, false_iff]
        rintro ⟨_, others, _, matched, _⟩
        rw [ih.mpr matched] at later
        cases later
      | ok values =>
        simp only [bind, Except.bind, pure, Except.pure, Except.ok.injEq]
        constructor
        · rintro rfl
          exact ⟨value, values, rfl, ih.mp later, rfl⟩
        · rintro ⟨other, others, rfl, matched, rfl⟩
          rw [ih.mpr matched] at later
          cases later
          rfl

/-- Each result of a mapped list is the result of an item. -/
theorem item_of_mapM {items : List α} {results : List β} (done : items.mapM f = .ok results)
    {result : β} (member : result ∈ results) : ∃ item ∈ items, f item = .ok result := by
  have matched := mapM_eq_ok_iff.mp done
  induction matched with
  | nil => cases member
  | @cons item value items values first _ ih =>
    rcases List.mem_cons.mp member with rfl | later
    · exact ⟨item, List.mem_cons_self, first⟩
    · obtain ⟨other, held, found⟩ := ih (mapM_eq_ok_iff.mpr ‹_›) later
      exact ⟨other, List.mem_cons_of_mem item held, found⟩

/-- A call that returns what passes a test returns. -/
theorem exists_ok_of_any {result : Except ε α} {test : α → Bool}
    (passed : result.toOption.any test = true) :
    ∃ value, result = .ok value ∧ test value = true := by
  cases result with
  | error failure => cases passed
  | ok value => exact ⟨value, rfl, passed⟩

end Macr.Lib
