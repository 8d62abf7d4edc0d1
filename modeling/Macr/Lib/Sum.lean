import Mathlib.Algebra.Order.BigOperators.Group.List
import Mathlib.Algebra.Order.Group.Defs
import Macr.Lib.Table

/-!
# Sums over rows

A total over a table is a sum of amounts that are not negative. What a filter leaves out of the
total is then a matter of single rows.
-/

namespace Macr.Lib

section Rewriting

variable {κ α M : Type} {key : α → κ} [DecidableEq κ] [AddCommMonoid M]

/-- Rewriting one stored row moves a total by that row's own change. -/
theorem sum_update_key (table : Table key) (assign : α → α)
    (keeps : ∀ row, key (assign row) = key row) (amount : α → M) {row : α}
    (stored : row ∈ table.rows) :
    ((table.update (fun other => key other = key row) assign keeps).rows.map amount).sum +
        amount row =
      (table.rows.map amount).sum + amount (assign row) := by
  obtain ⟨rows, distinct⟩ := table
  simp only [Table.update]
  simp only at stored
  induction rows with
  | nil => simp at stored
  | cons head rest ih =>
    rw [List.map_cons, List.nodup_cons] at distinct
    by_cases same : key head = key row
    · have untouched : ∀ other ∈ rest, key other ≠ key row := by
        intro other held equal
        apply distinct.1
        exact List.mem_map.mpr ⟨other, held, by rw [equal, same]⟩
      have isHead : row = head := by
        rcases List.mem_cons.mp stored with here | later
        · exact here
        · exact absurd rfl (untouched row later)
      subst isHead
      have rest_same : rest.map (fun other => if decide (key other = key row) = true
          then assign other else other) = rest := by
        conv_rhs => rw [← List.map_id rest]
        apply List.map_congr_left
        intro other held
        simp [untouched other held]
      simp only [List.map_cons, decide_true, if_true, List.sum_cons, rest_same]
      rw [add_comm (amount (assign row)) (rest.map amount).sum, add_comm (amount row),
        add_right_comm]
    · have held : row ∈ rest := by
        rcases List.mem_cons.mp stored with here | later
        · exact absurd (by rw [here]) same
        · exact later
      have step := ih distinct.2 held
      simp only [List.map_cons, same, decide_false, Bool.false_eq_true, if_false, List.sum_cons]
      rw [add_assoc, step, add_assoc]

/-- A total over a filter counts nothing for the rows left out. -/
theorem sum_filter_eq_sum_ite (keeps : α → Bool) (amount : α → M) (rows : List α) :
    ((rows.filter keeps).map amount).sum =
      (rows.map (fun row => if keeps row then amount row else 0)).sum := by
  induction rows with
  | nil => rfl
  | cons head rest ih =>
    by_cases kept : keeps head = true
    · simp [kept, ih]
    · simp [kept, ih]

end Rewriting

section Filtering

variable {α M : Type} [AddCommGroup M] [LinearOrder M] [IsOrderedAddMonoid M]

/-- A filter takes no more than the whole. -/
theorem sum_filter_le_sum (keeps : α → Bool) (amount : α → M) {rows : List α}
    (nonneg : ∀ row ∈ rows, 0 ≤ amount row) :
    ((rows.filter keeps).map amount).sum ≤ (rows.map amount).sum := by
  apply List.Sublist.sum_le_sum
  · exact (List.filter_sublist).map amount
  · intro value member
    obtain ⟨row, held, rfl⟩ := List.mem_map.mp member
    exact nonneg row held

/-- A filter leaves the total as it is exactly when each row it leaves out has no amount. -/
theorem sum_filter_eq_sum_iff (keeps : α → Bool) (amount : α → M) {rows : List α}
    (nonneg : ∀ row ∈ rows, 0 ≤ amount row) :
    ((rows.filter keeps).map amount).sum = (rows.map amount).sum ↔
      ∀ row ∈ rows, keeps row = false → amount row = 0 := by
  induction rows with
  | nil => simp
  | cons head rest ih =>
    have later : ∀ row ∈ rest, 0 ≤ amount row :=
      fun row member => nonneg row (List.mem_cons_of_mem head member)
    have bound := sum_filter_le_sum keeps amount later
    have first : 0 ≤ amount head := nonneg head List.mem_cons_self
    by_cases kept : keeps head = true
    · simp [kept, ih later]
    · have left : keeps head = false := by simpa using kept
      simp only [List.filter_cons, left, Bool.false_eq_true, if_false, List.map_cons,
        List.sum_cons, List.mem_cons, forall_eq_or_imp, true_imp_iff]
      constructor
      · intro same
        have zero : amount head = 0 := by
          apply le_antisymm _ first
          rw [same] at bound
          exact add_le_iff_nonpos_left.mp bound
        rw [zero, zero_add] at same
        exact ⟨zero, (ih later).mp same⟩
      · rintro ⟨zero, others⟩
        rw [zero, zero_add]
        exact (ih later).mpr others

end Filtering

end Macr.Lib
