import Mathlib.Data.Nat.Log
import Mathlib.Tactic.Common
import Mathlib.Tactic.Ring

/-!
# Packing numbers into one

A list of natural numbers as a single one, from which each of them can be read back. A number is
put in front with its width written in zeros, so the packed number is only a few times as long as
the list, and packing can be computed on long lists.
-/

namespace Macr.Lib

/-- The digits that a number has in base two, at least one. -/
def width (number : Nat) : Nat := Nat.log2 number + 1

/-- A number is below the power of its width. -/
theorem lt_two_pow_width (number : Nat) : number < 2 ^ width number := by
  unfold width
  exact Nat.lt_log2_self

/-- A number in front of a packed one. -/
def pack (number rest : Nat) : Nat :=
  (2 * (rest * 2 ^ width number + number) + 1) * 2 ^ width number

/-- The zeros behind an odd number can be counted. -/
theorem odd_mul_pow_inj {left right front back : Nat}
    (same : (2 * left + 1) * 2 ^ front = (2 * right + 1) * 2 ^ back) :
    front = back ∧ left = right := by
  induction front generalizing back with
  | zero =>
    cases back with
    | zero => omega
    | succ back =>
      rw [Nat.pow_succ] at same
      have even : (2 * right + 1) * (2 ^ back * 2) = 2 * ((2 * right + 1) * 2 ^ back) := by ring
      omega
  | succ front ih =>
    have halved : ∀ odd power : Nat, odd * 2 ^ (power + 1) = 2 * (odd * 2 ^ power) := by
      intro odd power
      ring
    cases back with
    | zero =>
      rw [halved] at same
      omega
    | succ back =>
      rw [halved, halved] at same
      obtain ⟨rfl, rfl⟩ := ih (Nat.eq_of_mul_eq_mul_left Nat.zero_lt_two same)
      exact ⟨rfl, rfl⟩

/-- Both parts of a packed number can be read back. -/
theorem pack_inj {left right leftRest rightRest : Nat}
    (same : pack left leftRest = pack right rightRest) : left = right ∧ leftRest = rightRest := by
  obtain ⟨widths, parts⟩ := odd_mul_pow_inj same
  have below := lt_two_pow_width left
  rw [widths] at parts below
  have number : left = right := by
    have low := congrArg (· % 2 ^ width right) parts
    simpa [Nat.mul_add_mod_of_lt, Nat.mod_eq_of_lt below,
      Nat.mod_eq_of_lt (lt_two_pow_width right), Nat.mul_add_mod', Nat.mul_comm] using low
  subst number
  refine ⟨rfl, ?_⟩
  have products : leftRest * 2 ^ width left = rightRest * 2 ^ width left := by omega
  exact Nat.eq_of_mul_eq_mul_right (Nat.two_pow_pos _) products

/-- A list of numbers, packed. -/
def packAll (numbers : List Nat) : Nat := numbers.foldr pack 0

/-- A packed number is not the empty one. -/
theorem pack_ne_zero (number rest : Nat) : pack number rest ≠ 0 := by
  unfold pack
  exact Nat.mul_ne_zero (Nat.succ_ne_zero _) (Nat.two_pow_pos (width number)).ne'

/-- A packed list can be read back. -/
theorem packAll_injective : Function.Injective packAll := by
  intro left
  induction left with
  | nil =>
    intro right same
    cases right with
    | nil => rfl
    | cons first later => exact absurd same.symm (pack_ne_zero _ _)
  | cons number rest ih =>
    intro right same
    cases right with
    | nil => exact absurd same (pack_ne_zero _ _)
    | cons first later =>
      obtain ⟨rfl, packed⟩ := pack_inj same
      rw [ih packed]

end Macr.Lib
