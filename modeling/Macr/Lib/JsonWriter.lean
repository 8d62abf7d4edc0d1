import Macr.Lib.JsonValues
import Mathlib.Data.Nat.Digits.Lemmas

/-!
# Writing JSON

`json.dumps` without white space and without escapes for what is not ASCII. What it writes of a
document whose numbers are numerals and whose keys differ is read back as the document, so the text
determines it.
-/

namespace Macr.Lib.JsonText

/-! ## Strings -/

/-- The hexadecimal digit of a number below 16. -/
def hexDigit (value : Nat) : Nat := if value < 10 then code '0' + value else code 'a' + (value - 10)

/-- How a code point is written in a string. -/
def unitOf (c : Nat) : StringUnit :=
  if c = code '"' then .escaped (code '"')
  else if c = code '\\' then .escaped (code '\\')
  else if c = 8 then .escaped (code 'b')
  else if c = 12 then .escaped (code 'f')
  else if c = 10 then .escaped (code 'n')
  else if c = 13 then .escaped (code 'r')
  else if c = 9 then .escaped (code 't')
  else if c < 32 then .coded (code '0') (code '0') (hexDigit (c / 16)) (hexDigit (c % 16))
  else .plain c

/-- A string between quotes. -/
def quoted (text : Text) : Text :=
  code '"' :: ((text.map unitOf).flatMap StringUnit.spelled ++ [code '"'])

/-- A digit is read as what it stands for. -/
theorem hexDigit_correct : ∀ value < 16,
    isHex (hexDigit value) = true ∧ hexOf (hexDigit value) = value := by
  decide

/-- A code point is written as a unit of the grammar. -/
theorem unitOf_formed (c : Nat) : (unitOf c).Formed := by
  unfold unitOf
  split_ifs with quote slash back feed line carriage tab control
  · exact (by decide : (escapes.lookup (code '"')).isSome = true)
  · exact (by decide : (escapes.lookup (code '\\')).isSome = true)
  · exact (by decide : (escapes.lookup (code 'b')).isSome = true)
  · exact (by decide : (escapes.lookup (code 'f')).isSome = true)
  · exact (by decide : (escapes.lookup (code 'n')).isSome = true)
  · exact (by decide : (escapes.lookup (code 'r')).isSome = true)
  · exact (by decide : (escapes.lookup (code 't')).isSome = true)
  · exact ⟨by decide, by decide, (hexDigit_correct (c / 16) (by omega)).1,
      (hexDigit_correct (c % 16) (by omega)).1⟩
  · exact ⟨quote, slash, not_lt.mp control⟩

/-- The unit stands for the code point. -/
theorem unitOf_value (c : Nat) : (unitOf c).value = c := by
  unfold unitOf
  split_ifs with quote slash back feed line carriage tab control
  · exact quote.symm
  · exact slash.symm
  · exact back.symm
  · exact feed.symm
  · exact line.symm
  · exact carriage.symm
  · exact tab.symm
  · have high := (hexDigit_correct (c / 16) (by omega)).2
    have low := (hexDigit_correct (c % 16) (by omega)).2
    have zero : hexOf (code '0') = 0 := by decide
    simp only [StringUnit.value, zero, high, low]
    omega
  · rfl

/-- A unit that stands for a control character is no half of a pair. -/
theorem pairs_of_control {unit : StringUnit} (control : unit.value < 32) (next : StringUnit) :
    unit.pairs next = false := by
  have low : isHigh unit.value = false := by
    simp only [isHigh, Bool.and_eq_false_imp, decide_eq_true_eq, decide_eq_false_iff_not]
    omega
  cases unit with
  | plain _ => rfl
  | escaped _ => rfl
  | coded _ _ _ _ =>
    cases next with
    | plain _ => rfl
    | escaped _ => rfl
    | coded _ _ _ _ => simp only [StringUnit.pairs, low, Bool.false_and]

/-- The unit of a code point is no half of a pair. -/
theorem unitOf_pairs (c : Nat) (next : StringUnit) : (unitOf c).pairs next = false := by
  by_cases control : c < 32
  · exact pairs_of_control (by rw [unitOf_value]; exact control) next
  · unfold unitOf
    split_ifs <;> rfl

/-- The units stand for the text. -/
theorem joined_unitOf (text : Text) : joined (text.map unitOf) = text := by
  induction text with
  | nil => rfl
  | cons c rest ih =>
    cases rest with
    | nil => exact congrArg (· :: []) (unitOf_value c)
    | cons next rest =>
      have step : joined ((c :: next :: rest).map unitOf) =
          (unitOf c).value :: joined ((next :: rest).map unitOf) := by
        change (if (unitOf c).pairs (unitOf next) then _ else _) = _
        rw [if_neg (by rw [unitOf_pairs]; exact Bool.false_ne_true)]
        rfl
      rw [step, unitOf_value, ih]

/-- A string between quotes stands for the text. -/
theorem quoted_correct (text : Text) : Quoted text (quoted text) := by
  refine ⟨text.map unitOf, fun unit member => ?_, (joined_unitOf text).symm, rfl⟩
  obtain ⟨c, -, rfl⟩ := List.mem_map.mp member
  exact unitOf_formed c

/-! ## Numbers -/

/-- The digits of a natural number. -/
def digitsOf (number : Nat) : Text :=
  if number = 0 then [code '0'] else (Nat.digits 10 number).reverse.map (code '0' + ·)

/-- A natural number. -/
def natural (number : Nat) : Numeral := ⟨false, digitsOf number, none, none⟩

/-- The digits write the number. -/
theorem digitsValue_digitsOf (number : Nat) : digitsValue (digitsOf number) = number := by
  unfold digitsOf digitsValue
  split_ifs with zero
  · subst zero
    decide
  · have back : ((Nat.digits 10 number).reverse.map (code '0' + ·)).reverse.map (· - code '0') =
        Nat.digits 10 number := by
      rw [← List.map_reverse, List.reverse_reverse, List.map_map]
      conv_rhs => rw [← List.map_id (Nat.digits 10 number)]
      exact List.map_congr_left fun digit _ => Nat.add_sub_cancel_left (code '0') digit
    rw [back, Nat.ofDigits_digits]

/-- They are digits without a zero before them. -/
theorem leading_digitsOf (number : Nat) : Leading (digitsOf number) := by
  unfold digitsOf
  split_ifs with zero
  · exact ⟨⟨by decide, by decide⟩, fun _ => rfl⟩
  · have nonempty : Nat.digits 10 number ≠ [] := Nat.digits_ne_nil_iff_ne_zero.mpr zero
    refine ⟨⟨by simp [nonempty], fun c member => ?_⟩, fun first => ?_⟩
    · obtain ⟨digit, found, rfl⟩ := List.mem_map.mp member
      have small := Nat.digits_lt_base (by norm_num : 1 < 10) (List.mem_reverse.mp found)
      have nine : code '9' = code '0' + 9 := rfl
      simp only [isDigit, nine, Bool.and_eq_true, decide_eq_true_eq]
      omega
    · exfalso
      rw [List.head?_map, List.head?_reverse, List.getLast?_eq_some_getLast nonempty] at first
      have last := Nat.getLast_digit_ne_zero 10 zero
      simp only [Option.map_some, Option.some.injEq] at first
      omega

/-- A natural number is a numeral. -/
theorem natural_formed (number : Nat) : (natural number).Formed :=
  ⟨leading_digitsOf number, nofun, nofun⟩

/-- It is the integer. -/
theorem natural_integer (number : Nat) : (natural number).integer = number := by
  simp [Numeral.integer, natural, digitsValue_digitsOf]

/-- Different numbers are written differently. -/
theorem natural_injective : Function.Injective natural := by
  intro left right same
  have integers := congrArg Numeral.integer same
  rw [natural_integer, natural_integer] at integers
  exact Int.natCast_inj.mp integers

/-! ## Documents -/

/-- A document that can be written: its numbers are numerals, and the keys of an object differ. -/
inductive Writable : Document → Prop
  | null : Writable .null
  | bool (value : Bool) : Writable (.bool value)
  | constant (value : Constant) : Writable (.constant value)
  | number {value : Numeral} (formed : value.Formed) : Writable (.number value)
  | string (value : Text) : Writable (.string value)
  | array {items : List Document} (each : ∀ item ∈ items, Writable item) :
      Writable (.array items)
  | object {members : List (Text × Document)} (distinct : (members.map (·.1)).Nodup)
      (each : ∀ pair ∈ members, Writable pair.2) : Writable (.object members)

mutual

/-- `json.dumps`. -/
def dumps : Document → Text
  | .null => codes ['n', 'u', 'l', 'l']
  | .bool true => codes ['t', 'r', 'u', 'e']
  | .bool false => codes ['f', 'a', 'l', 's', 'e']
  | .constant .nan => codes ['N', 'a', 'N']
  | .constant .infinity => codes ['I', 'n', 'f', 'i', 'n', 'i', 't', 'y']
  | .constant .negativeInfinity => codes ['-', 'I', 'n', 'f', 'i', 'n', 'i', 't', 'y']
  | .number value => value.spelled
  | .string value => quoted value
  | .array items => code '[' :: dumpsItems items
  | .object members => code '{' :: dumpsMembers members

/-- The items of an array, and its closing bracket. -/
def dumpsItems : List Document → Text
  | [] => [code ']']
  | [item] => dumps item ++ [code ']']
  | item :: next :: rest => dumps item ++ code ',' :: dumpsItems (next :: rest)

/-- The members of an object, and its closing bracket. -/
def dumpsMembers : List (Text × Document) → Text
  | [] => [code '}']
  | [(key, value)] => quoted key ++ code ':' :: (dumps value ++ [code '}'])
  | (key, value) :: next :: rest =>
    quoted key ++ code ':' :: (dumps value ++ code ',' :: dumpsMembers (next :: rest))

end

/-- No white space. -/
theorem blank_nil : Blank [] := nofun

/-- More brackets may be open. -/
theorem writes_succ {digits depth : Nat} {document : Document} {used : Text}
    (written : Writes digits depth document used) : Writes digits (depth + 1) document used := by
  induction depth generalizing document used with
  | zero => exact .scalar written
  | succ depth ih =>
    cases written with
    | scalar written => exact .scalar written
    | array written => exact .array (bracketed_narrow written fun _ _ _ inner => ih inner)
    | object written distinct =>
      refine .object (bracketed_narrow written ?_) distinct
      rintro pair _ _ ⟨key, before, behind, rest, string, white, white', inner, rfl⟩
      exact ⟨key, before, behind, rest, string, white, white', ih inner, rfl⟩

/-- As many more as one likes. -/
theorem writes_mono {digits depth depth' : Nat} (le : depth ≤ depth') {document : Document}
    {used : Text} (written : Writes digits depth document used) :
    Writes digits depth' document used := by
  induction le with
  | refl => exact written
  | step _ ih => exact writes_succ ih

/-- One depth is enough for finitely many documents. -/
theorem exists_depth {documents : List Document}
    (each : ∀ document ∈ documents, ∃ depth, Writes 0 depth document (dumps document)) :
    ∃ depth, ∀ document ∈ documents, Writes 0 depth document (dumps document) := by
  induction documents with
  | nil => exact ⟨0, nofun⟩
  | cons first rest ih =>
    obtain ⟨depth, here⟩ := each first List.mem_cons_self
    obtain ⟨depth', others⟩ := ih fun other member =>
      each other (List.mem_cons_of_mem first member)
    refine ⟨max depth depth', List.forall_mem_cons.mpr ⟨writes_mono (Nat.le_max_left _ _) here,
      fun other member => writes_mono (Nat.le_max_right _ _) (others other member)⟩⟩

/-- The items are a series. -/
theorem dumpsItems_series {Inner : Document → Text → Prop} {items : List Document}
    (some : items ≠ []) (each : ∀ item ∈ items, Inner item (dumps item)) :
    Series Inner (code ']') items (dumpsItems items) := by
  induction items with
  | nil => exact absurd rfl some
  | cons item rest ih =>
    have here := each item List.mem_cons_self
    cases rest with
    | nil =>
      rw [dumpsItems]
      exact @Series.last _ _ _ _ _ [] here blank_nil
    | cons next rest =>
      rw [dumpsItems]
      exact @Series.more _ _ _ _ _ _ [] [] _ here blank_nil blank_nil
        (ih (List.cons_ne_nil next rest) fun other member => each other
          (List.mem_cons_of_mem item member))

/-- A member is written with its key. -/
theorem member_dumps {Inner : Document → Text → Prop} {key : Text} {value : Document}
    (written : Inner value (dumps value)) :
    Member Inner (key, value) (quoted key ++ code ':' :: dumps value) :=
  ⟨quoted key, [], [], dumps value, quoted_correct key, blank_nil, blank_nil, written, rfl⟩

/-- The members are a series. -/
theorem dumpsMembers_series {Inner : Document → Text → Prop} {members : List (Text × Document)}
    (some : members ≠ []) (each : ∀ pair ∈ members, Inner pair.2 (dumps pair.2)) :
    Series (Member Inner) (code '}') members (dumpsMembers members) := by
  induction members with
  | nil => exact absurd rfl some
  | cons pair rest ih =>
    obtain ⟨key, value⟩ := pair
    have here := @member_dumps _ key _ (each (key, value) List.mem_cons_self)
    cases rest with
    | nil =>
      rw [dumpsMembers]
      have last := @Series.last _ _ (code '}') _ _ [] here blank_nil
      rwa [List.append_assoc, List.cons_append] at last
    | cons next rest =>
      rw [dumpsMembers]
      have more := @Series.more _ _ _ _ _ _ [] [] _ here blank_nil blank_nil
        (ih (List.cons_ne_nil next rest) fun other member => each other
          (List.mem_cons_of_mem (key, value) member))
      rwa [List.append_assoc, List.cons_append] at more

/-- What is written of a document is of the grammar. -/
theorem writes_dumps {document : Document} (writable : Writable document) :
    ∃ depth, Writes 0 depth document (dumps document) := by
  have word : ∀ {spelled document}, (spelled, document) ∈ words →
      ∃ depth, Writes 0 depth document spelled := fun known => ⟨0, Scalar.word known⟩
  induction writable with
  | null => exact word (by simp [words, dumps])
  | bool value => cases value <;> exact word (by simp [words, dumps])
  | constant value => cases value <;> exact word (by simp [words, dumps])
  | number formed => exact ⟨0, .number formed fun long => absurd long.2.1 (Nat.lt_irrefl 0)⟩
  | string value => exact ⟨0, .string (quoted_correct value)⟩
  | @array items each ih =>
    obtain ⟨depth, written⟩ := exists_depth ih
    refine ⟨depth + 1, .array ?_⟩
    by_cases none : items = []
    · subst none
      exact .inl ⟨rfl, [], blank_nil, rfl⟩
    · exact .inr ⟨[], _, blank_nil, rfl, dumpsItems_series none written⟩
  | @object members distinct each ih =>
    obtain ⟨depth, written⟩ := @exists_depth (members.map (·.2)) fun document found => by
      obtain ⟨pair, inside, rfl⟩ := List.mem_map.mp found
      exact ih pair inside
    refine ⟨depth + 1, .object ?_ distinct⟩
    by_cases none : members = []
    · subst none
      exact .inl ⟨rfl, [], blank_nil, rfl⟩
    · exact .inr ⟨[], _, blank_nil, rfl, dumpsMembers_series none fun pair member =>
        written pair.2 (List.mem_map_of_mem member)⟩

/-- A text writes one document. -/
theorem writesAny_unique {document other : Document} {text : Text}
    (written : WritesAny document text) (written' : WritesAny other text) : document = other := by
  obtain ⟨depth, within⟩ := written
  exact (document_of_loads (loads_eq_ok.mpr within) written').symm

/-- Documents that are written alike are the same. -/
theorem dumps_injective {document other : Document} (writable : Writable document)
    (writable' : Writable other) (same : dumps document = dumps other) : document = other := by
  have written : ∀ {document}, Writable document → WritesAny document (dumps document) := by
    intro document writable
    obtain ⟨depth, inner⟩ := writes_dumps writable
    exact ⟨depth, [], dumps document, [], blank_nil, blank_nil, inner, by simp⟩
  exact writesAny_unique (written writable) (same ▸ written writable')

end Macr.Lib.JsonText
