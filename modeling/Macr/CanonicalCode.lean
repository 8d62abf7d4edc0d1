import Macr.Canonical
import Macr.Lib.Packing
import Mathlib.Data.List.Basic
import Mathlib.Data.Rat.Lemmas

/-!
# A digest without collisions

Documents written as lists of numbers, of which none is the beginning of another, and these packed
into one number. That is an injective stand-in for SHA-256, so the results that ask for one are
not about nothing; it can be evaluated.
-/

namespace Macr

open Lib

/-- The numbers of a text. -/
def textTokens (text : String) : List Nat := text.toList.length :: text.toList.map Char.toNat

/-- The number of an integer. -/
def intToken : Int → Nat
  | .ofNat value => 2 * value
  | .negSucc value => 2 * value + 1

mutual

/-- The numbers of a document. -/
def Json.tokens : Json → List Nat
  | .null => [0]
  | .bool value => [1, value.toNat]
  | .int value => [2, intToken value]
  | .num value => [3, intToken value.num, value.den]
  | .str value => 4 :: textTokens value
  | .hex value => [5, value]
  | .time value => [6, value]
  | .arr items => 7 :: Json.itemTokens items
  | .obj fields => 8 :: Json.fieldTokens fields

/-- The numbers of an array. -/
def Json.itemTokens : List Json → List Nat
  | [] => [0]
  | item :: rest => 1 :: (item.tokens ++ Json.itemTokens rest)

/-- The numbers of an object. -/
def Json.fieldTokens : List (String × Json) → List Nat
  | [] => [0]
  | (name, value) :: rest => 1 :: (textTokens name ++ (value.tokens ++ Json.fieldTokens rest))

end

/-- An integer can be read back. -/
theorem intToken_injective : Function.Injective intToken := by
  intro left right same
  cases left <;> cases right <;> simp only [intToken] at same
  · rw [Nat.eq_of_mul_eq_mul_left Nat.zero_lt_two same]
  · omega
  · omega
  · rw [Nat.eq_of_mul_eq_mul_left Nat.zero_lt_two (Nat.succ.inj same)]

/-- So can a truth value. -/
theorem boolToNat_injective : Function.Injective Bool.toNat := by
  intro left right same
  cases left <;> cases right <;> simp_all

/-- Characters are their codes. -/
theorem toNat_injective : Function.Injective Char.toNat := by
  intro left right same
  exact Char.ext (UInt32.toNat_inj.mp same)

/-- A text in front of more numbers can be read back. -/
theorem textTokens_append {left right : String} {behind after : List Nat}
    (same : textTokens left ++ behind = textTokens right ++ after) :
    left = right ∧ behind = after := by
  simp only [textTokens, List.cons_append, List.cons.injEq] at same
  obtain ⟨lengths, same⟩ := same
  obtain ⟨codes, rest⟩ := List.append_inj same (by simpa using lengths)
  exact ⟨String.toList_injective (List.map_injective_iff.mpr toNat_injective codes), rest⟩

mutual

/-- A document in front of more numbers can be read back. -/
theorem Json.tokens_append : ∀ {left right : Json} {behind after : List Nat},
    left.tokens ++ behind = right.tokens ++ after → left = right ∧ behind = after
  | .null, right, _, _, same => by
    cases right <;> simp [Json.tokens] at same ⊢
    exact same
  | .bool value, right, _, _, same => by
    cases right <;> simp [Json.tokens] at same ⊢
    exact ⟨boolToNat_injective same.1, same.2⟩
  | .int value, right, _, _, same => by
    cases right <;> simp [Json.tokens] at same ⊢
    exact ⟨intToken_injective same.1, same.2⟩
  | .num value, right, _, _, same => by
    cases right <;> simp [Json.tokens] at same ⊢
    exact ⟨Rat.ext (intToken_injective same.1) same.2.1, same.2.2⟩
  | .str value, right, _, _, same => by
    cases right <;> simp [Json.tokens] at same ⊢
    exact textTokens_append same
  | .hex value, right, _, _, same => by
    cases right <;> simp [Json.tokens] at same ⊢
    exact same
  | .time value, right, _, _, same => by
    cases right <;> simp [Json.tokens] at same ⊢
    exact same
  | .arr items, right, _, _, same => by
    cases right <;> simp [Json.tokens] at same ⊢
    exact Json.itemTokens_append same
  | .obj fields, right, _, _, same => by
    cases right <;> simp [Json.tokens] at same ⊢
    exact Json.fieldTokens_append same

/-- So can an array. -/
theorem Json.itemTokens_append : ∀ {left right : List Json} {behind after : List Nat},
    Json.itemTokens left ++ behind = Json.itemTokens right ++ after → left = right ∧ behind = after
  | [], right, _, _, same => by
    cases right <;> simp [Json.itemTokens] at same ⊢
    exact same
  | item :: rest, right, _, _, same => by
    cases right with
    | nil => simp [Json.itemTokens] at same
    | cons other others =>
      simp only [Json.itemTokens, List.cons_append, List.cons.injEq, true_and,
        List.append_assoc] at same
      obtain ⟨rfl, later⟩ := Json.tokens_append same
      obtain ⟨rfl, beyond⟩ := Json.itemTokens_append later
      exact ⟨rfl, beyond⟩

/-- So can an object. -/
theorem Json.fieldTokens_append : ∀ {left right : List (String × Json)} {behind after : List Nat},
    Json.fieldTokens left ++ behind = Json.fieldTokens right ++ after →
      left = right ∧ behind = after
  | [], right, _, _, same => by
    cases right <;> simp [Json.fieldTokens] at same ⊢
    exact same
  | (name, value) :: rest, right, _, _, same => by
    cases right with
    | nil => simp [Json.fieldTokens] at same
    | cons other others =>
      obtain ⟨otherName, otherValue⟩ := other
      simp only [Json.fieldTokens, List.cons_append, List.cons.injEq, true_and,
        List.append_assoc] at same
      obtain ⟨rfl, values⟩ := textTokens_append same
      obtain ⟨rfl, later⟩ := Json.tokens_append values
      obtain ⟨rfl, beyond⟩ := Json.fieldTokens_append later
      exact ⟨rfl, beyond⟩

end

/-- A stand-in for SHA-256 without collisions. -/
def packedDigest : Sha256 where
  sha256Id := fun namespace_ document => packAll (textTokens namespace_ ++ document.tokens)
  sha256 := fun document => packAll document.tokens

/-- No two documents have one packed digest. -/
theorem packedDigest_injective : Function.Injective packedDigest.sha256 := by
  intro left right same
  have tokens := packAll_injective same
  exact (Json.tokens_append (congrArg (· ++ []) tokens)).1

/-- Nor do two documents of one namespace. -/
theorem packedDigest_sha256Id_injective (space : String) :
    Function.Injective (packedDigest.sha256Id space) := by
  intro left right same
  have tokens := packAll_injective same
  have documents := List.append_cancel_left tokens
  exact (Json.tokens_append (congrArg (· ++ []) documents)).1

end Macr
