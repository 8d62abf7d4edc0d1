import Mathlib.Data.List.DropRight
import Mathlib.Data.Nat.Digits.Defs
import Mathlib.Tactic.Common

/-!
# Trimmed, lower-case and hexadecimal texts

A checked text is usually one that some normal form returns unchanged. Trimming is such a form;
lower case is one on the texts of hexadecimal digits, where it needs only the letters of ASCII.
Hexadecimal digits of one length are determined by the number they write.
-/

namespace Macr.Lib

/-- The characters that `str.strip` removes. -/
def isSpace (c : Char) : Bool :=
  let code := c.toNat
  (9 ≤ code && code ≤ 13) || (28 ≤ code && code ≤ 32) || code = 0x85 || code = 0xa0 ||
    code = 0x1680 || (0x2000 ≤ code && code ≤ 0x200a) || code = 0x2028 || code = 0x2029 ||
    code = 0x202f || code = 0x205f || code = 0x3000

/-- `str.strip`. -/
def strip (text : String) : String :=
  String.ofList ((text.toList.dropWhile isSpace).reverse.dropWhile isSpace).reverse

/-- `str.lower`, as far as a letter of ASCII is what it returns or what it is given. -/
def lower (text : String) : String := String.ofList (text.toList.map Char.toLower)

/-- A digit of `[0-9a-f]`. -/
def isHexDigit (c : Char) : Bool :=
  let code := c.toNat
  (48 ≤ code && code ≤ 57) || (97 ≤ code && code ≤ 102)

/-- The number a hexadecimal digit writes. -/
def hexDigitValue (c : Char) : Nat := if c.toNat ≤ 57 then c.toNat - 48 else c.toNat - 87

/-- The number hexadecimal digits write, the first being the highest. -/
def hexValue (digits : List Char) : Nat := Nat.ofDigits 16 (digits.reverse.map hexDigitValue)

/-! ## Trimming -/

section Lists

variable {α : Type}

/-- A prefix of a list without its leading matches has no leading match. -/
theorem dropWhile_passing {p : α → Bool} {front whole : List α}
    (starts : front <+: whole.dropWhile p) : front.dropWhile p = front := by
  rw [List.dropWhile_eq_self_iff]
  intro inhabited
  have same := starts.getElem inhabited
  rw [same]
  exact List.dropWhile_get_zero_not p whole (Nat.lt_of_lt_of_le inhabited starts.length_le)

/-- Dropping the matches at both ends twice is dropping them once. -/
theorem trim_trim (p : α → Bool) (items : List α) :
    ((((items.dropWhile p).reverse.dropWhile p).reverse.dropWhile p).reverse.dropWhile p).reverse =
      ((items.dropWhile p).reverse.dropWhile p).reverse := by
  have behind : (items.dropWhile p).reverse.dropWhile p <:+ (items.dropWhile p).reverse :=
    List.dropWhile_suffix p
  have starts : ((items.dropWhile p).reverse.dropWhile p).reverse <+: items.dropWhile p := by
    rw [← List.reverse_suffix, List.reverse_reverse]
    exact behind
  rw [dropWhile_passing starts, List.reverse_reverse, List.dropWhile_idempotent]

end Lists

/-- Trimming a trimmed text changes nothing. -/
theorem strip_strip (text : String) : strip (strip text) = strip text := by
  unfold strip
  rw [String.toList_ofList, trim_trim]

/-- A text without white space is trimmed. -/
theorem strip_of_no_space {text : String} (dense : ∀ c ∈ text.toList, isSpace c = false) :
    strip text = text := by
  have keep : ∀ items : List Char, (∀ c ∈ items, isSpace c = false) →
      items.dropWhile isSpace = items := by
    intro items each
    cases items with
    | nil => rfl
    | cons head rest => simp [each head List.mem_cons_self]
  have backwards : ∀ c ∈ text.toList.reverse, isSpace c = false := by
    intro c member
    exact dense c (List.mem_reverse.mp member)
  unfold strip
  rw [keep _ dense, keep _ backwards, List.reverse_reverse, String.ofList_toList]

/-! ## Hexadecimal digits -/

/-- A hexadecimal digit is no white space. -/
theorem not_space_of_hexDigit {c : Char} (hex : isHexDigit c = true) : isSpace c = false := by
  simp only [isHexDigit, Bool.or_eq_true, Bool.and_eq_true, decide_eq_true_eq] at hex
  simp only [isSpace, Bool.or_eq_false_iff, Bool.and_eq_false_iff, decide_eq_false_iff_not]
  omega

/-- A hexadecimal digit is lower case. -/
theorem toLower_of_hexDigit {c : Char} (hex : isHexDigit c = true) : c.toLower = c := by
  simp only [isHexDigit, Bool.or_eq_true, Bool.and_eq_true, decide_eq_true_eq] at hex
  have notUpper : ¬('A'.val ≤ c.val ∧ c.val ≤ 'Z'.val) := by
    rintro ⟨above, below⟩
    have low : 65 ≤ c.toNat := above
    have high : c.toNat ≤ 90 := below
    omega
  unfold Char.toLower
  exact dif_neg notUpper

/-- A text of hexadecimal digits is trimmed. -/
theorem strip_of_hex {text : String} (hex : ∀ c ∈ text.toList, isHexDigit c = true) :
    strip text = text :=
  strip_of_no_space (fun c member => not_space_of_hexDigit (hex c member))

/-- A text of hexadecimal digits is lower case. -/
theorem lower_of_hex {text : String} (hex : ∀ c ∈ text.toList, isHexDigit c = true) :
    lower text = text := by
  have same : text.toList.map Char.toLower = text.toList := by
    conv_rhs => rw [← List.map_id text.toList]
    exact List.map_congr_left (fun c member => toLower_of_hexDigit (hex c member))
  rw [lower, same, String.ofList_toList]

/-- A hexadecimal digit writes a number below sixteen. -/
theorem hexDigitValue_lt {c : Char} (hex : isHexDigit c = true) : hexDigitValue c < 16 := by
  simp only [isHexDigit, Bool.or_eq_true, Bool.and_eq_true, decide_eq_true_eq] at hex
  unfold hexDigitValue
  split <;> omega

/-- Hexadecimal digits that write one number are one digit. -/
theorem eq_of_hexDigitValue {c d : Char} (left : isHexDigit c = true) (right : isHexDigit d = true)
    (same : hexDigitValue c = hexDigitValue d) : c = d := by
  simp only [isHexDigit, Bool.or_eq_true, Bool.and_eq_true, decide_eq_true_eq] at left right
  have codes : c.toNat = d.toNat := by
    unfold hexDigitValue at same
    split at same <;> split at same <;> omega
  exact Char.ext (UInt32.toNat_inj.mp codes)

/-- Hexadecimal digits of one length that write one number are the same digits. -/
theorem eq_of_hexValue {left right : List Char} (leftHex : ∀ c ∈ left, isHexDigit c = true)
    (rightHex : ∀ c ∈ right, isHexDigit c = true) (length : left.length = right.length)
    (same : hexValue left = hexValue right) : left = right := by
  have below : ∀ {digits : List Char}, (∀ c ∈ digits, isHexDigit c = true) →
      ∀ value ∈ digits.reverse.map hexDigitValue, value < 16 := by
    intro digits hex value member
    obtain ⟨c, here, rfl⟩ := List.mem_map.mp member
    exact hexDigitValue_lt (hex c (List.mem_reverse.mp here))
  have values : left.reverse.map hexDigitValue = right.reverse.map hexDigitValue :=
    Nat.ofDigits_inj_of_len_eq (by decide) (by simp [length]) (below leftHex) (below rightHex) same
  rw [List.map_reverse, List.map_reverse, List.reverse_inj] at values
  clear same below
  induction left generalizing right with
  | nil =>
    rw [List.length_nil] at length
    exact (List.length_eq_zero_iff.mp length.symm).symm
  | cons c rest ih =>
    cases right with
    | nil => simp at length
    | cons d others =>
      rw [List.map_cons, List.map_cons, List.cons.injEq] at values
      have head : c = d := eq_of_hexDigitValue (leftHex c List.mem_cons_self)
        (rightHex d List.mem_cons_self) values.1
      have tail : rest = others :=
        ih (fun x member => leftHex x (List.mem_cons_of_mem _ member))
          (fun x member => rightHex x (List.mem_cons_of_mem _ member))
          (Nat.succ.inj length) values.2
      rw [head, tail]

end Macr.Lib
