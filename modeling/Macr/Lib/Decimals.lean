import Macr.Lib.JsonTokens
import Mathlib.Algebra.Group.Nat.Defs

/-!
# Decimals of a fixed width

Numbers written with leading zeros to one width are ordered as texts as they are as numbers,
whatever follows them, and they are read back.
-/

namespace Macr.Lib

open JsonText

/-- `'%0*d'`: the last digits of a number, the highest first. -/
def decimals : Nat → Nat → Text
  | 0, _ => []
  | width + 1, value => (48 + value / 10 ^ width % 10) :: decimals width (value % 10 ^ width)

/-- A digit of ASCII. -/
def isDecimal (c : Nat) : Bool := 48 ≤ c && c ≤ 57

/-- `parse_digits`: so many digits from the front of a text, after a number already read. -/
def readDecimals : Nat → Nat → Text → Option (Nat × Text)
  | 0, value, text => some (value, text)
  | _ + 1, _, [] => none
  | width + 1, value, c :: rest =>
    if isDecimal c then readDecimals width (value * 10 + (c - 48)) rest else none

/-- Decimals have their width. -/
theorem decimals_length (width value : Nat) : (decimals width value).length = width := by
  induction width generalizing value with
  | zero => rfl
  | succ width ih => rw [decimals, List.length_cons, ih]

/-- The code point of a digit is one. -/
theorem isDecimal_digit {digit : Nat} (small : digit < 10) : isDecimal (48 + digit) = true := by
  unfold isDecimal
  simp only [Bool.and_eq_true, decide_eq_true_eq]
  omega

/-- What is written are digits. -/
theorem isDecimal_of_mem {width value c : Nat} (written : c ∈ decimals width value) :
    isDecimal c = true := by
  induction width generalizing value with
  | zero => cases written
  | succ width ih =>
    rcases List.mem_cons.mp written with rfl | later
    · exact isDecimal_digit (Nat.mod_lt _ (by decide))
    · exact ih later

/-- Texts that begin with decimals of one width are ordered by them, and then by what follows. -/
theorem decimals_append_lt_iff {width value other : Nat} {text rest : Text}
    (small : value < 10 ^ width) (less : other < 10 ^ width) :
    decimals width value ++ text < decimals width other ++ rest ↔
      value < other ∨ value = other ∧ text < rest := by
  induction width generalizing value other with
  | zero =>
    obtain rfl : value = 0 := by omega
    obtain rfl : other = 0 := by omega
    simp [decimals]
  | succ width ih =>
    have positive : 0 < 10 ^ width := Nat.pow_pos (by decide)
    rw [Nat.pow_succ, Nat.mul_comm] at small less
    have first : value / 10 ^ width < 10 := Nat.div_lt_of_lt_mul (Nat.mul_comm _ _ ▸ small)
    have second : other / 10 ^ width < 10 := Nat.div_lt_of_lt_mul (Nat.mul_comm _ _ ▸ less)
    have left := Nat.div_add_mod value (10 ^ width)
    have right := Nat.div_add_mod other (10 ^ width)
    have below := Nat.mod_lt value positive
    have beneath := Nat.mod_lt other positive
    rw [decimals, decimals, List.cons_append, List.cons_append, List.cons_lt_cons_iff,
      Nat.mod_eq_of_lt first, Nat.mod_eq_of_lt second, Nat.add_lt_add_iff_left,
      Nat.add_left_cancel_iff, ih below beneath]
    generalize 10 ^ width = power at *
    constructor
    · rintro (high | ⟨same, low | ⟨equal, after⟩⟩)
      · left
        have step : power * (value / power) + power ≤ power * (other / power) := by
          rw [← Nat.mul_succ]
          exact Nat.mul_le_mul_left _ high
        omega
      · left
        rw [same] at left
        omega
      · right
        rw [same] at left
        exact ⟨by omega, after⟩
    · rintro (order | ⟨rfl, after⟩)
      · rcases Nat.lt_or_eq_of_le (Nat.div_le_div_right (c := power) (Nat.le_of_lt order)) with
          high | same
        · exact .inl high
        · rw [same] at left
          exact .inr ⟨same, .inl (by omega)⟩
      · exact .inr ⟨rfl, .inr ⟨rfl, after⟩⟩

/-- Decimals are read back. -/
theorem readDecimals_decimals {width value : Nat} (small : value < 10 ^ width) (before : Nat)
    (rest : Text) : readDecimals width before (decimals width value ++ rest) =
      some (before * 10 ^ width + value, rest) := by
  induction width generalizing value before with
  | zero =>
    obtain rfl : value = 0 := by omega
    simp [decimals, readDecimals]
  | succ width ih =>
    have positive : 0 < 10 ^ width := Nat.pow_pos (by decide)
    rw [Nat.pow_succ, Nat.mul_comm] at small
    have first : value / 10 ^ width < 10 := Nat.div_lt_of_lt_mul (Nat.mul_comm _ _ ▸ small)
    have whole := Nat.div_add_mod value (10 ^ width)
    rw [decimals, List.cons_append, Nat.mod_eq_of_lt first, readDecimals,
      if_pos (isDecimal_digit first), Nat.add_sub_cancel_left, ih (Nat.mod_lt value positive),
      Option.some.injEq, Prod.mk.injEq]
    refine ⟨?_, rfl⟩
    calc (before * 10 + value / 10 ^ width) * 10 ^ width + value % 10 ^ width
        = before * (10 * 10 ^ width) +
            (10 ^ width * (value / 10 ^ width) + value % 10 ^ width) := by
          rw [Nat.add_mul, Nat.mul_assoc, Nat.mul_comm (value / 10 ^ width), Nat.add_assoc]
      _ = before * 10 ^ (width + 1) + value := by
          rw [whole, Nat.pow_succ, Nat.mul_comm 10]

end Macr.Lib
