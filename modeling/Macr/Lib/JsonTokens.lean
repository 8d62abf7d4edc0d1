import Mathlib.Data.List.TakeWhile
import Mathlib.Tactic.Common

/-!
# The tokens of a JSON text

A text is a list of code points, surrogates included. Each token has a spelling, which is what the
grammar of JSON writes, and a reader that takes the longest spelling from the front of a text. A
string is a list of units, and two units that spell a pair of surrogates stand for one code point.
-/

namespace Macr.Lib.JsonText

/-- A text, by code point. -/
abbrev Text := List Nat

instance : LawfulBEq Text := inferInstance

/-- The code point of a character. -/
abbrev code (c : Char) : Nat := c.toNat

/-- The code points of a list of characters. -/
def codes (text : List Char) : Text := text.map code

/-! ## Blanks -/

/-- The white space of JSON. -/
def isBlank (c : Nat) : Bool := c = code ' ' || c = code '\t' || c = code '\n' || c = code '\r'

/-- A text of white space. -/
def Blank (text : Text) : Prop := ∀ c ∈ text, isBlank c = true

/-- A text that does not start with white space. -/
def Solid (text : Text) : Prop := ∃ c rest, text = c :: rest ∧ isBlank c = false

/-- The text after its leading white space. -/
def skip (text : Text) : Text := text.dropWhile isBlank

/-- The leading white space of a text is skipped. -/
theorem skip_append {blank : Text} (white : Blank blank) (text : Text) :
    skip (blank ++ text) = skip text :=
  List.dropWhile_append_of_pos white

/-- Nothing is skipped in front of a solid text. -/
theorem skip_of_solid {text : Text} (solid : Solid text) : skip text = text := by
  obtain ⟨c, rest, rfl, dense⟩ := solid
  exact List.dropWhile_cons_of_neg (by simp [dense])

/-- White space in front of a solid text is all that is skipped. -/
theorem skip_blank_append {blank text : Text} (white : Blank blank) (solid : Solid text) :
    skip (blank ++ text) = text := by
  rw [skip_append white, skip_of_solid solid]

/-- What is skipped is white space. -/
theorem exists_blank (text : Text) : ∃ blank, Blank blank ∧ text = blank ++ skip text := by
  refine ⟨text.takeWhile isBlank, ?_, (List.takeWhile_append_dropWhile).symm⟩
  intro c member
  exact List.mem_takeWhile_imp member

/-- What may follow a value: the end, white space, a comma or a closing bracket. -/
def Delimited (text : Text) : Prop :=
  ∀ c ∈ text.head?, isBlank c = true ∨ c = code ',' ∨ c = code ']' ∨ c = code '}'

/-- White space and a mark delimit a value. -/
theorem delimited_append {blank : Text} (white : Blank blank) {mark : Nat} (rest : Text)
    (closes : mark = code ',' ∨ mark = code ']' ∨ mark = code '}') :
    Delimited (blank ++ mark :: rest) := by
  intro c first
  cases blank with
  | nil =>
    cases Option.some.inj first
    exact .inr closes
  | cons space more =>
    cases Option.some.inj first
    exact .inl (white c List.mem_cons_self)

/-- White space at the end delimits a value. -/
theorem delimited_blank {blank : Text} (white : Blank blank) : Delimited blank := by
  intro c first
  exact .inl (white c (List.mem_of_mem_head? first))

/-! ## Numerals -/

/-- `[0-9]`. -/
def isDigit (c : Nat) : Bool := code '0' ≤ c && c ≤ code '9'

/-- A run of digits, at least one. -/
def Digits (text : Text) : Prop := text ≠ [] ∧ ∀ c ∈ text, isDigit c = true

/-- The exponent of a numeral. -/
structure Exponent where
  /-- `e` or `E`. -/
  mark : Nat
  /-- A sign, if there is one. -/
  sign : Option Nat
  /-- The digits. -/
  digits : Text
deriving DecidableEq

/-- The number tokens of JSON. -/
structure Numeral where
  /-- Whether it starts with a minus sign. -/
  negative : Bool
  /-- The digits in front. -/
  digits : Text
  /-- The digits after a point. -/
  fraction : Option Text
  /-- The exponent. -/
  exponent : Option Exponent
deriving DecidableEq

/-- An exponent of the grammar. -/
def Exponent.Formed (exponent : Exponent) : Prop :=
  (exponent.mark = code 'e' ∨ exponent.mark = code 'E') ∧
    (∀ sign ∈ exponent.sign, sign = code '+' ∨ sign = code '-') ∧ Digits exponent.digits

/-- The digits in front of a number have no zero before them. -/
def Leading (digits : Text) : Prop :=
  Digits digits ∧ (digits.head? = some (code '0') → digits = [code '0'])

/-- A number of the grammar. -/
def Numeral.Formed (numeral : Numeral) : Prop :=
  Leading numeral.digits ∧ (∀ fraction ∈ numeral.fraction, Digits fraction) ∧
    ∀ exponent ∈ numeral.exponent, exponent.Formed

/-- A number without a fraction and an exponent. -/
def Numeral.isInteger (numeral : Numeral) : Bool :=
  numeral.fraction.isNone && numeral.exponent.isNone

/-- The spelling of a sign. -/
def signSpelled (negative : Bool) : Text := if negative then [code '-'] else []

/-- The spelling of a fraction. -/
def fractionSpelled : Option Text → Text
  | none => []
  | some digits => code '.' :: digits

/-- The spelling of an exponent. -/
def exponentSpelled : Option Exponent → Text
  | none => []
  | some exponent => exponent.mark :: exponent.sign.toList ++ exponent.digits

/-- The spelling of a number. -/
def Numeral.spelled (numeral : Numeral) : Text :=
  signSpelled numeral.negative ++ numeral.digits ++ fractionSpelled numeral.fraction ++
    exponentSpelled numeral.exponent

/-- A sign in front of a text. -/
def sign? : Text → Bool × Text
  | [] => (false, [])
  | c :: rest => if c = code '-' then (true, rest) else (false, c :: rest)

/-- The digits in front of a text, where the first is a zero only if it is the last. -/
def leading? : Text → Option (Text × Text)
  | [] => none
  | c :: rest =>
    if c = code '0' then some ([c], rest)
    else if isDigit c then some (c :: rest.takeWhile isDigit, rest.dropWhile isDigit)
    else none

/-- The digits in front of a text. -/
def digits? (text : Text) : Option (Text × Text) :=
  if text.takeWhile isDigit = [] then none
  else some (text.takeWhile isDigit, text.dropWhile isDigit)

/-- A fraction in front of a text. -/
def fraction? : Text → Option Text × Text
  | [] => (none, [])
  | c :: rest =>
    if c = code '.' then
      match digits? rest with
      | some (digits, rest) => (some digits, rest)
      | none => (none, c :: rest)
    else (none, c :: rest)

/-- The sign of an exponent in front of a text. -/
def exponentSign? : Text → Option Nat × Text
  | [] => (none, [])
  | c :: rest => if c = code '+' ∨ c = code '-' then (some c, rest) else (none, c :: rest)

/-- An exponent in front of a text. -/
def exponent? : Text → Option Exponent × Text
  | [] => (none, [])
  | c :: rest =>
    if c = code 'e' ∨ c = code 'E' then
      match digits? (exponentSign? rest).2 with
      | some (digits, behind) => (some ⟨c, (exponentSign? rest).1, digits⟩, behind)
      | none => (none, c :: rest)
    else (none, c :: rest)

/-- A number in front of a text. -/
def numeral? (text : Text) : Option (Numeral × Text) :=
  (leading? (sign? text).2).map (fun (digits, rest) =>
    (⟨(sign? text).1, digits, (fraction? rest).1, (exponent? (fraction? rest).2).1⟩,
      (exponent? (fraction? rest).2).2))

/-- A text that does not start with a digit. -/
def NoDigit (text : Text) : Prop := ∀ c ∈ text.head?, isDigit c = false

/-- A text that does not start with a fraction. -/
def NoFraction (text : Text) : Prop :=
  ∀ digits rest, Digits digits → text ≠ fractionSpelled (some digits) ++ rest

/-- A text that does not start with an exponent. -/
def NoExponent (text : Text) : Prop :=
  ∀ exponent rest, exponent.Formed → text ≠ exponentSpelled (some exponent) ++ rest

/-- Nothing at the start of a text goes on with a number. -/
structure Ends (text : Text) : Prop where
  /-- No digit. -/
  digit : NoDigit text
  /-- No fraction. -/
  fraction : NoFraction text
  /-- No exponent. -/
  exponent : NoExponent text

/-- A run of digits is taken as a whole. -/
theorem takeWhile_digits {digits rest : Text} (run : Digits digits) (stops : NoDigit rest) :
    (digits ++ rest).takeWhile isDigit = digits ∧ (digits ++ rest).dropWhile isDigit = rest := by
  have last : rest.takeWhile isDigit = [] ∧ rest.dropWhile isDigit = rest := by
    cases rest with
    | nil => exact ⟨rfl, rfl⟩
    | cons c more =>
      have other : isDigit c = false := stops c rfl
      exact ⟨List.takeWhile_cons_of_neg (by simp [other]),
        List.dropWhile_cons_of_neg (by simp [other])⟩
  rw [List.takeWhile_append_of_pos run.2, List.dropWhile_append_of_pos run.2, last.1, last.2]
  exact ⟨List.append_nil digits, rfl⟩

/-- What is left behind a run of digits does not start with one. -/
theorem noDigit_dropWhile (text : Text) : NoDigit (text.dropWhile isDigit) := by
  intro c first
  induction text with
  | nil => cases first
  | cons d rest ih =>
    by_cases digit : isDigit d = true
    · rw [List.dropWhile_cons_of_pos digit] at first
      exact ih first
    · rw [List.dropWhile_cons_of_neg digit] at first
      cases Option.some.inj first
      exact Bool.not_eq_true _ ▸ digit

/-- The digits in front of a text are its longest run of digits. -/
theorem digits?_eq_some {text digits rest : Text} :
    digits? text = some (digits, rest) ↔ text = digits ++ rest ∧ Digits digits ∧ NoDigit rest := by
  unfold digits?
  constructor
  · intro read
    split at read
    · cases read
    · rename_i some_digit
      cases Option.some.inj read
      refine ⟨List.takeWhile_append_dropWhile.symm, ⟨some_digit, ?_⟩, noDigit_dropWhile text⟩
      intro c member
      exact List.mem_takeWhile_imp member
  · rintro ⟨rfl, run, stops⟩
    obtain ⟨taken, dropped⟩ := takeWhile_digits run stops
    rw [taken, dropped, if_neg run.1]

/-- A text with no run of digits in front does not start with a digit. -/
theorem digits?_eq_none {text : Text} : digits? text = none ↔ NoDigit text := by
  unfold digits?
  cases text with
  | nil => exact ⟨fun _ _ first => (Option.some_ne_none _ first.symm).elim, fun _ => rfl⟩
  | cons c rest =>
    by_cases digit : isDigit c = true
    · have run : (c :: rest).takeWhile isDigit ≠ [] := by
        rw [List.takeWhile_cons_of_pos digit]
        exact List.cons_ne_nil _ _
      rw [if_neg run]
      refine ⟨fun absurd => (Option.some_ne_none _ absurd).elim, fun stops => ?_⟩
      rw [stops c rfl] at digit
      cases digit
    · rw [List.takeWhile_cons_of_neg digit, if_pos rfl]
      refine ⟨fun _ d first => ?_, fun _ => rfl⟩
      cases Option.some.inj first
      exact Bool.not_eq_true _ ▸ digit

/-- A run of digits does not start what starts with no digit. -/
theorem not_starts_digits {digits rest : Text} (run : Digits digits) :
    ¬NoDigit (digits ++ rest) := by
  intro stops
  cases digits with
  | nil => exact run.1 rfl
  | cons c more =>
    have digit := run.2 c List.mem_cons_self
    rw [stops c rfl] at digit
    cases digit

/-- A fraction that is written is read. -/
theorem fraction?_spelled {digits rest : Text} (run : Digits digits) (stops : NoDigit rest) :
    fraction? (fractionSpelled (some digits) ++ rest) = (some digits, rest) := by
  show fraction? (code '.' :: (digits ++ rest)) = _
  simp only [fraction?, if_pos, digits?_eq_some.mpr ⟨rfl, run, stops⟩]

/-- Without a fraction in front nothing is read. -/
theorem fraction?_none {text : Text} (none_there : NoFraction text) :
    fraction? text = (none, text) := by
  cases text with
  | nil => rfl
  | cons c rest =>
    by_cases point : c = code '.'
    · subst point
      cases run : digits? rest with
      | none => simp only [fraction?, if_pos, run]
      | some found =>
        obtain ⟨same, digits, _⟩ := digits?_eq_some.mp run
        exact absurd (congrArg (code '.' :: ·) same) (none_there found.1 found.2 digits)
    · simp only [fraction?, if_neg point]

/-- A fraction is read where one is written, up to its last digit. -/
theorem fraction?_cases (text : Text) :
    (NoFraction text ∧ fraction? text = (none, text)) ∨
      ∃ digits rest, text = fractionSpelled (some digits) ++ rest ∧ Digits digits ∧ NoDigit rest ∧
        fraction? text = (some digits, rest) := by
  by_cases none_there : NoFraction text
  · exact .inl ⟨none_there, fraction?_none none_there⟩
  · right
    simp only [NoFraction, not_forall, ne_eq, not_not] at none_there
    obtain ⟨digits, rest, run, rfl⟩ := none_there
    have found : digits? (digits ++ rest) ≠ none := fun none =>
      not_starts_digits run (digits?_eq_none.mp none)
    obtain ⟨⟨read, behind⟩, found⟩ := Option.ne_none_iff_exists'.mp found
    obtain ⟨same, run, stops⟩ := digits?_eq_some.mp found
    refine ⟨read, behind, congrArg (code '.' :: ·) same, run, stops, ?_⟩
    show fraction? (code '.' :: (digits ++ rest)) = _
    simp only [fraction?, if_pos, found]

/-- A sign is no digit. -/
theorem isDigit_of_sign {c : Nat} (sign : c = code '+' ∨ c = code '-') : isDigit c = false := by
  rcases sign with rfl | rfl <;> decide

/-- The sign of an exponent is read as it is written. -/
theorem exponentSign?_spelled {sign : Option Nat} {digits rest : Text}
    (signed : ∀ c ∈ sign, c = code '+' ∨ c = code '-') (run : Digits digits) :
    exponentSign? (sign.toList ++ digits ++ rest) = (sign, digits ++ rest) := by
  cases sign with
  | some c => exact if_pos (signed c rfl)
  | none =>
    cases digits with
    | nil => exact absurd rfl run.1
    | cons c more =>
      have digit := run.2 c List.mem_cons_self
      have other : ¬(c = code '+' ∨ c = code '-') := by
        intro sign
        rw [isDigit_of_sign sign] at digit
        cases digit
      exact if_neg other

/-- A sign that is read was written. -/
theorem exponentSign?_sound (text : Text) :
    text = (exponentSign? text).1.toList ++ (exponentSign? text).2 ∧
      ∀ c ∈ (exponentSign? text).1, c = code '+' ∨ c = code '-' := by
  cases text with
  | nil => exact ⟨rfl, fun c member => by cases member⟩
  | cons c rest =>
    by_cases sign : c = code '+' ∨ c = code '-'
    · rw [exponentSign?, if_pos sign]
      refine ⟨rfl, fun d member => ?_⟩
      cases Option.some.inj member
      exact sign
    · rw [exponentSign?, if_neg sign]
      exact ⟨rfl, fun d member => by cases member⟩

/-- An exponent that is written is read. -/
theorem exponent?_spelled {exponent : Exponent} {rest : Text} (formed : exponent.Formed)
    (stops : NoDigit rest) :
    exponent? (exponentSpelled (some exponent) ++ rest) = (some exponent, rest) := by
  obtain ⟨marked, signed, run⟩ := formed
  show exponent? (exponent.mark :: (exponent.sign.toList ++ exponent.digits ++ rest)) = _
  simp only [exponent?, if_pos marked, exponentSign?_spelled signed run,
    digits?_eq_some.mpr ⟨rfl, run, stops⟩]

/-- Without an exponent in front nothing is read. -/
theorem exponent?_none {text : Text} (none_there : NoExponent text) :
    exponent? text = (none, text) := by
  cases text with
  | nil => rfl
  | cons c rest =>
    by_cases marked : c = code 'e' ∨ c = code 'E'
    · cases run : digits? (exponentSign? rest).2 with
      | none => simp only [exponent?, if_pos marked, run]
      | some found =>
        obtain ⟨same, digits, _⟩ := digits?_eq_some.mp run
        obtain ⟨parts, signed⟩ := exponentSign?_sound rest
        have written : c :: rest =
            exponentSpelled (some ⟨c, (exponentSign? rest).1, found.1⟩) ++ found.2 := by
          show c :: rest = c :: ((exponentSign? rest).1.toList ++ found.1 ++ found.2)
          rw [List.append_assoc, ← same, ← parts]
        exact absurd written (none_there _ _ ⟨marked, signed, digits⟩)
    · simp only [exponent?, if_neg marked]

/-- An exponent is read where one is written, up to its last digit. -/
theorem exponent?_cases (text : Text) :
    (NoExponent text ∧ exponent? text = (none, text)) ∨
      ∃ exponent rest, text = exponentSpelled (some exponent) ++ rest ∧ exponent.Formed ∧
        NoDigit rest ∧ exponent? text = (some exponent, rest) := by
  by_cases none_there : NoExponent text
  · exact .inl ⟨none_there, exponent?_none none_there⟩
  · right
    simp only [NoExponent, not_forall, ne_eq, not_not] at none_there
    obtain ⟨⟨mark, sign, digits⟩, rest, ⟨marked, signed, run⟩, rfl⟩ := none_there
    have found : digits? (digits ++ rest) ≠ none := fun none =>
      not_starts_digits run (digits?_eq_none.mp none)
    obtain ⟨⟨read, behind⟩, found⟩ := Option.ne_none_iff_exists'.mp found
    obtain ⟨same, longest, stops⟩ := digits?_eq_some.mp found
    refine ⟨⟨mark, sign, read⟩, behind, ?_, ⟨marked, signed, longest⟩, stops, ?_⟩
    · show mark :: (sign.toList ++ digits ++ rest) = mark :: (sign.toList ++ read ++ behind)
      rw [List.append_assoc, same, List.append_assoc]
    · show exponent? (mark :: (sign.toList ++ digits ++ rest)) = _
      simp only [exponent?, if_pos marked, exponentSign?_spelled signed run, found]

/-- The digits in front of a number are read, when none follows them. -/
theorem leading?_spelled {digits rest : Text} (leading : Leading digits) (stops : NoDigit rest) :
    leading? (digits ++ rest) = some (digits, rest) := by
  cases digits with
  | nil => exact absurd rfl leading.1.1
  | cons c more =>
    by_cases zero : c = code '0'
    · have alone := leading.2 (by rw [zero]; rfl)
      rw [alone]
      rfl
    · have digit := leading.1.2 c List.mem_cons_self
      obtain ⟨taken, dropped⟩ : (more ++ rest).takeWhile isDigit = more ∧
          (more ++ rest).dropWhile isDigit = rest := by
        have both := takeWhile_digits leading.1 stops
        rw [List.cons_append, List.takeWhile_cons_of_pos digit,
          List.dropWhile_cons_of_pos digit] at both
        exact ⟨List.tail_eq_of_cons_eq both.1, both.2⟩
      show leading? (c :: (more ++ rest)) = _
      simp only [leading?, if_neg zero, if_pos digit, taken, dropped]

/-- The digits that are read in front of a number are the ones there; after more than a zero they
go on to the last. -/
theorem leading?_sound {text digits rest : Text} (read : leading? text = some (digits, rest)) :
    text = digits ++ rest ∧ Leading digits ∧ (digits ≠ [code '0'] → NoDigit rest) := by
  cases text with
  | nil => cases read
  | cons c more =>
    by_cases zero : c = code '0'
    · rw [leading?, if_pos zero] at read
      cases Option.some.inj read
      subst zero
      refine ⟨rfl, ⟨⟨List.cons_ne_nil _ _, ?_⟩, fun _ => rfl⟩, fun other => absurd rfl other⟩
      decide
    · by_cases digit : isDigit c = true
      · rw [leading?, if_neg zero, if_pos digit] at read
        cases Option.some.inj read
        refine ⟨congrArg (c :: ·) List.takeWhile_append_dropWhile.symm,
          ⟨⟨List.cons_ne_nil _ _, ?_⟩, fun first => absurd (Option.some.inj first) zero⟩,
          fun _ => noDigit_dropWhile more⟩
        intro d member
        rcases List.mem_cons.mp member with rfl | later
        · exact digit
        · exact List.mem_takeWhile_imp later
      · rw [leading?, if_neg zero, if_neg digit] at read
        cases read

/-- A text that starts with a digit starts with no minus sign. -/
theorem sign?_of_digit {digits rest : Text} (run : Digits digits) :
    sign? (digits ++ rest) = (false, digits ++ rest) := by
  cases digits with
  | nil => exact absurd rfl run.1
  | cons c more =>
    have digit := run.2 c List.mem_cons_self
    have other : c ≠ code '-' := by
      rintro rfl
      exact absurd digit (by decide)
    exact if_neg other

/-- The sign of a number is read as it is written. -/
theorem sign?_spelled (negative : Bool) {digits rest : Text} (run : Digits digits) :
    sign? (signSpelled negative ++ digits ++ rest) = (negative, digits ++ rest) := by
  cases negative with
  | true => rfl
  | false => exact sign?_of_digit run

/-- A sign that is read was written. -/
theorem sign?_sound (text : Text) : text = signSpelled (sign? text).1 ++ (sign? text).2 := by
  cases text with
  | nil => rfl
  | cons c rest =>
    by_cases minus : c = code '-'
    · rw [sign?, if_pos minus, minus]
      rfl
    · rw [sign?, if_neg minus]
      rfl

/-- A fraction or an exponent does not start with a digit, nor does what ends a number. -/
theorem noDigit_behind {numeral : Numeral} {rest : Text} (formed : numeral.Formed)
    (ends : NoDigit rest) :
    NoDigit (exponentSpelled numeral.exponent ++ rest) ∧
      NoDigit (fractionSpelled numeral.fraction ++ (exponentSpelled numeral.exponent ++ rest)) := by
  have behind : NoDigit (exponentSpelled numeral.exponent ++ rest) := by
    cases found : numeral.exponent with
    | none => exact ends
    | some exponent =>
      intro c first
      cases Option.some.inj first
      rcases (formed.2.2 exponent found).1 with marked | marked <;> rw [marked] <;> decide
  refine ⟨behind, ?_⟩
  cases numeral.fraction with
  | none => exact behind
  | some digits =>
    intro c first
    cases Option.some.inj first
    decide

/-- A number that is written is read, when nothing goes on with it. -/
theorem numeral?_spelled {numeral : Numeral} {rest : Text} (formed : numeral.Formed)
    (ends : Ends rest) : numeral? (numeral.spelled ++ rest) = some (numeral, rest) := by
  obtain ⟨behindFraction, behindDigits⟩ := noDigit_behind formed ends.digit
  have fraction : fraction? (fractionSpelled numeral.fraction ++
      (exponentSpelled numeral.exponent ++ rest)) =
        (numeral.fraction, exponentSpelled numeral.exponent ++ rest) := by
    cases found : numeral.fraction with
    | some digits => exact fraction?_spelled (formed.2.1 digits found) behindFraction
    | none =>
      refine fraction?_none ?_
      cases other : numeral.exponent with
      | none => exact ends.fraction
      | some exponent =>
        intro digits more _ same
        have marked := (formed.2.2 exponent other).1
        have point : exponent.mark = code '.' := (List.cons.inj same).1
        rw [point] at marked
        exact absurd marked (by decide)
  have exponent : exponent? (exponentSpelled numeral.exponent ++ rest) =
      (numeral.exponent, rest) := by
    cases found : numeral.exponent with
    | some exponent => exact exponent?_spelled (formed.2.2 exponent found) ends.digit
    | none => exact exponent?_none ends.exponent
  have sign := @sign?_spelled numeral.negative _ (fractionSpelled numeral.fraction ++
    (exponentSpelled numeral.exponent ++ rest)) formed.1.1
  have parts : numeral.spelled ++ rest = signSpelled numeral.negative ++ numeral.digits ++
      (fractionSpelled numeral.fraction ++ (exponentSpelled numeral.exponent ++ rest)) := by
    simp only [Numeral.spelled, List.append_assoc]
  rw [parts, numeral?, sign, leading?_spelled formed.1 behindDigits, Option.map_some]
  simp only [fraction, exponent]

/-- A number that is read was written; nothing goes on with an integer of more than a zero. -/
theorem numeral?_sound {text rest : Text} {numeral : Numeral}
    (read : numeral? text = some (numeral, rest)) :
    text = numeral.spelled ++ rest ∧ numeral.Formed ∧
      (numeral.isInteger = true → numeral.digits ≠ [code '0'] → Ends rest) := by
  unfold numeral? at read
  rw [Option.map_eq_some_iff] at read
  obtain ⟨⟨digits, behind⟩, leading, same⟩ := read
  obtain ⟨first, formed, longest⟩ := leading?_sound leading
  rw [Prod.mk.injEq] at same
  obtain ⟨rfl, rfl⟩ := same
  have text_eq : text = signSpelled (sign? text).1 ++ (digits ++ behind) := by
    rw [← first]
    exact sign?_sound text
  rcases fraction?_cases behind with ⟨noFraction, fraction⟩ |
    ⟨f, more, written, run, stops, fraction⟩
  · rw [fraction]
    rcases exponent?_cases behind with ⟨noExponent, exponent⟩ | ⟨e, last, written, exp, _, exponent⟩
    · rw [exponent]
      refine ⟨?_, ⟨formed, fun _ h => (by cases h), fun _ h => (by cases h)⟩, ?_⟩
      · simp only [Numeral.spelled, fractionSpelled, exponentSpelled, List.append_nil,
          List.append_assoc]
        exact text_eq
      · intro _ more
        exact ⟨longest more, noFraction, noExponent⟩
    · rw [exponent]
      refine ⟨?_, ⟨formed, fun _ h => (by cases h), fun _ h => (Option.some.inj h) ▸ exp⟩, ?_⟩
      · simp only [Numeral.spelled, fractionSpelled, List.append_nil, List.append_assoc]
        rw [← written]
        exact text_eq
      · intro integer
        cases integer
  · rw [fraction]
    rcases exponent?_cases more with ⟨noExponent, exponent⟩ | ⟨e, last, written', exp, _, exponent⟩
    · rw [exponent]
      refine ⟨?_, ⟨formed, fun _ h => (Option.some.inj h) ▸ run, fun _ h => (by cases h)⟩, ?_⟩
      · simp only [Numeral.spelled, exponentSpelled, List.append_nil, List.append_assoc]
        rw [← written]
        exact text_eq
      · intro integer
        cases integer
    · rw [exponent]
      refine ⟨?_, ⟨formed, fun _ h => (Option.some.inj h) ▸ run, fun _ h =>
        (Option.some.inj h) ▸ exp⟩, ?_⟩
      · simp only [Numeral.spelled, List.append_assoc]
        rw [← written', ← written]
        exact text_eq
      · intro integer
        cases integer

/-- What delimits a value ends a number. -/
theorem ends_of_delimited {text : Text} (delimited : Delimited text) : Ends text := by
  have apart : ∀ c ∈ text.head?,
      isDigit c = false ∧ c ≠ code '.' ∧ c ≠ code 'e' ∧ c ≠ code 'E' := by
    intro c first
    have marks : isBlank c = true ∨ c = code ',' ∨ c = code ']' ∨ c = code '}' := delimited c first
    simp only [isBlank, Bool.or_eq_true, decide_eq_true_eq] at marks
    rcases marks with ((((rfl | rfl) | rfl) | rfl) | rfl | rfl | rfl) <;> decide
  refine ⟨fun c first => (apart c first).1, ?_, ?_⟩
  · rintro digits rest _ rfl
    exact (apart _ rfl).2.1 rfl
  · rintro exponent rest ⟨marked, _⟩ rfl
    rcases marked with marked | marked
    · exact (apart _ rfl).2.2.1 marked
    · exact (apart _ rfl).2.2.2 marked

/-- A number starts with a minus sign or a digit. -/
theorem numeral_head {numeral : Numeral} (formed : numeral.Formed) :
    ∃ c rest, numeral.spelled = c :: rest ∧ (c = code '-' ∨ isDigit c = true) := by
  unfold Numeral.spelled
  cases numeral.negative with
  | true => exact ⟨code '-', _, rfl, .inl rfl⟩
  | false =>
    cases found : numeral.digits with
    | nil => exact absurd found formed.1.1.1
    | cons c rest =>
      have digit : isDigit c = true := formed.1.1.2 c (by rw [found]; exact List.mem_cons_self)
      exact ⟨c, _, rfl, .inr digit⟩

/-! ## Strings -/

/-- A hexadecimal digit of either case. -/
def isHex (c : Nat) : Bool :=
  isDigit c || (code 'a' ≤ c && c ≤ code 'f') || (code 'A' ≤ c && c ≤ code 'F')

/-- What a hexadecimal digit stands for. -/
def hexOf (c : Nat) : Nat :=
  if c ≤ code '9' then c - code '0' else if c ≤ code 'F' then c - code 'A' + 10
  else c - code 'a' + 10

/-- The letters that may follow a backslash, with what they stand for. -/
def escapes : List (Nat × Nat) :=
  [(code '"', code '"'), (code '\\', code '\\'), (code '/', code '/'), (code 'b', 8),
    (code 'f', 12), (code 'n', 10), (code 'r', 13), (code 't', 9)]

/-- What a string is written of. -/
inductive StringUnit where
  /-- A code point as it is. -/
  | plain (c : Nat)
  /-- A letter behind a backslash. -/
  | escaped (letter : Nat)
  /-- Four hexadecimal digits behind a backslash and a `u`. -/
  | coded (a b c d : Nat)
deriving DecidableEq

/-- A unit of the grammar. -/
def StringUnit.Formed : StringUnit → Prop
  | .plain c => c ≠ code '"' ∧ c ≠ code '\\' ∧ 32 ≤ c
  | .escaped letter => (escapes.lookup letter).isSome = true
  | .coded a b c d => isHex a = true ∧ isHex b = true ∧ isHex c = true ∧ isHex d = true

/-- The spelling of a unit. -/
def StringUnit.spelled : StringUnit → Text
  | .plain c => [c]
  | .escaped letter => [code '\\', letter]
  | .coded a b c d => [code '\\', code 'u', a, b, c, d]

/-- What a unit stands for. -/
def StringUnit.value : StringUnit → Nat
  | .plain c => c
  | .escaped letter => (escapes.lookup letter).getD letter
  | .coded a b c d => ((hexOf a * 16 + hexOf b) * 16 + hexOf c) * 16 + hexOf d

/-- The first of a pair of surrogates. -/
def isHigh (c : Nat) : Bool := 0xD800 ≤ c && c ≤ 0xDBFF

/-- The second of a pair of surrogates. -/
def isLow (c : Nat) : Bool := 0xDC00 ≤ c && c ≤ 0xDFFF

/-- The code point of a pair of surrogates. -/
def joinedPair (high low : Nat) : Nat := 0x10000 + (high - 0xD800) * 0x400 + (low - 0xDC00)

/-- Two coded units that are a pair of surrogates. -/
def StringUnit.pairs : StringUnit → StringUnit → Bool
  | .coded a b c d, .coded a' b' c' d' =>
    isHigh (StringUnit.coded a b c d).value && isLow (StringUnit.coded a' b' c' d').value
  | _, _ => false

/-- What units stand for, pairs of surrogates joined from the left. -/
def joined : List StringUnit → Text
  | [] => []
  | [last] => [last.value]
  | first :: second :: rest =>
    if first.pairs second then joinedPair first.value second.value :: joined rest
    else first.value :: joined (second :: rest)

/-- The text `used` is a string of JSON that stands for `text`. -/
def Quoted (text used : Text) : Prop :=
  ∃ units : List StringUnit, (∀ unit ∈ units, unit.Formed) ∧ text = joined units ∧
    used = code '"' :: (units.flatMap StringUnit.spelled ++ [code '"'])

/-- Four hexadecimal digits in front of a text. -/
def coded? : Text → Option (StringUnit × Text)
  | a :: b :: c :: d :: rest =>
    if isHex a && isHex b && isHex c && isHex d then some (.coded a b c d, rest) else none
  | _ => none

/-- A unit behind a backslash. -/
def escape? : Text → Option (StringUnit × Text)
  | [] => none
  | letter :: rest =>
    if letter = code 'u' then coded? rest
    else if (escapes.lookup letter).isSome then some (.escaped letter, rest)
    else none

/-- A unit in front of a text. -/
def unit? : Text → Option (StringUnit × Text)
  | [] => none
  | c :: rest =>
    if c = code '\\' then escape? rest
    else if c = code '"' ∨ c < 32 then none
    else some (.plain c, rest)

/-- The units up to a closing quote. -/
def units? : Nat → Text → Option (List StringUnit × Text)
  | 0, _ => none
  | fuel + 1, text =>
    if text.head? = some (code '"') then some ([], text.tail)
    else do
      let (unit, rest) ← unit? text
      let (units, rest) ← units? fuel rest
      some (unit :: units, rest)

/-- A string behind its opening quote. -/
def string? (text : Text) : Option (Text × Text) :=
  (units? text.length text).map (fun (units, rest) => (joined units, rest))

/-- A unit that is written is read. -/
theorem unit?_spelled {unit : StringUnit} (formed : unit.Formed) (rest : Text) :
    unit? (unit.spelled ++ rest) = some (unit, rest) := by
  cases unit with
  | plain c =>
    obtain ⟨quote, backslash, printed⟩ := formed
    show unit? (c :: rest) = _
    rw [unit?, if_neg backslash, if_neg (by omega)]
  | escaped letter =>
    have other : letter ≠ code 'u' := by
      rintro rfl
      exact absurd (show (escapes.lookup (code 'u')).isSome = true from formed) (by decide)
    have known : (escapes.lookup letter).isSome = true := formed
    show unit? (code '\\' :: letter :: rest) = _
    rw [unit?, if_pos rfl, escape?, if_neg other, if_pos known]
  | coded a b c d =>
    obtain ⟨ha, hb, hc, hd⟩ := formed
    show unit? (code '\\' :: code 'u' :: a :: b :: c :: d :: rest) = _
    rw [unit?, if_pos rfl, escape?, if_pos rfl]
    simp only [coded?, ha, hb, hc, hd, Bool.and_self, if_true]

/-- A unit that is read was written. -/
theorem unit?_sound {text rest : Text} {unit : StringUnit} (read : unit? text = some (unit, rest)) :
    text = unit.spelled ++ rest ∧ unit.Formed := by
  cases text with
  | nil => cases read
  | cons c more =>
    by_cases backslash : c = code '\\'
    · subst backslash
      rw [unit?, if_pos rfl] at read
      cases more with
      | nil => cases read
      | cons letter more =>
        by_cases coded : letter = code 'u'
        · subst coded
          rw [escape?, if_pos rfl] at read
          unfold coded? at read
          split at read
          · split at read
            · rename_i hex
              cases Option.some.inj read
              simp only [Bool.and_eq_true] at hex
              exact ⟨rfl, hex.1.1.1, hex.1.1.2, hex.1.2, hex.2⟩
            · cases read
          · cases read
        · rw [escape?, if_neg coded] at read
          split at read
          · rename_i known
            cases Option.some.inj read
            exact ⟨rfl, known⟩
          · cases read
    · rw [unit?, if_neg backslash] at read
      split at read
      · cases read
      · rename_i printed
        cases Option.some.inj read
        exact ⟨rfl, fun quote => printed (.inl quote), backslash,
          Nat.le_of_not_lt (fun low => printed (.inr low))⟩

/-- No unit starts with a quote. -/
theorem unit_head {unit : StringUnit} (formed : unit.Formed) (rest : Text) :
    (unit.spelled ++ rest).head? ≠ some (code '"') ∧ 1 ≤ unit.spelled.length := by
  cases unit with
  | plain c => exact ⟨fun same => formed.1 (Option.some.inj same), Nat.le_refl _⟩
  | escaped letter =>
    exact ⟨(by show some (code '\\') ≠ _; decide), (by show 1 ≤ 2; omega)⟩
  | coded a b c d =>
    exact ⟨(by show some (code '\\') ≠ _; decide), (by show 1 ≤ 6; omega)⟩

/-- Units that are written are read up to the closing quote. -/
theorem units?_spelled {units : List StringUnit} (formed : ∀ unit ∈ units, unit.Formed)
    (rest : Text) {fuel : Nat} (enough : units.length < fuel) :
    units? fuel (units.flatMap StringUnit.spelled ++ code '"' :: rest) = some (units, rest) := by
  induction units generalizing fuel with
  | nil =>
    cases fuel with
    | zero => omega
    | succ fuel => exact if_pos rfl
  | cons unit more ih =>
    cases fuel with
    | zero => exact absurd enough (Nat.not_lt_zero _)
    | succ fuel =>
      have here := formed unit List.mem_cons_self
      have later := ih (fun other member => formed other (List.mem_cons_of_mem unit member))
        (Nat.lt_of_succ_lt_succ enough)
      have shape : (unit :: more).flatMap StringUnit.spelled ++ code '"' :: rest =
          unit.spelled ++ (more.flatMap StringUnit.spelled ++ code '"' :: rest) := by
        rw [List.flatMap_cons, List.append_assoc]
      rw [shape, units?, if_neg (unit_head here _).1, unit?_spelled here]
      simp only [later, Option.bind_eq_bind, Option.bind_some]

/-- Units that are read were written, with a closing quote behind them. -/
theorem units?_sound {fuel : Nat} {text rest : Text} {units : List StringUnit}
    (read : units? fuel text = some (units, rest)) :
    text = units.flatMap StringUnit.spelled ++ code '"' :: rest ∧
      ∀ unit ∈ units, unit.Formed := by
  induction fuel generalizing text units with
  | zero => cases read
  | succ fuel ih =>
    by_cases closed : text.head? = some (code '"')
    · rw [units?, if_pos closed] at read
      cases Option.some.inj read
      cases text with
      | nil => cases closed
      | cons c more =>
        cases Option.some.inj closed
        exact ⟨rfl, fun _ member => absurd member List.not_mem_nil⟩
    · rw [units?, if_neg closed] at read
      simp only [Option.bind_eq_bind, Option.bind_eq_some_iff, Prod.exists,
        Option.some.injEq, Prod.mk.injEq] at read
      obtain ⟨unit, behind, first, more, last, later, rfl, rfl⟩ := read
      obtain ⟨here, formed⟩ := unit?_sound first
      obtain ⟨there, each⟩ := ih later
      refine ⟨?_, ?_⟩
      · rw [here, there, List.flatMap_cons, List.append_assoc]
      · intro other member
        rcases List.mem_cons.mp member with rfl | member
        · exact formed
        · exact each other member

/-- The units of a string are no more than its code points. -/
theorem length_le_spelled {units : List StringUnit} (formed : ∀ unit ∈ units, unit.Formed) :
    units.length ≤ (units.flatMap StringUnit.spelled).length := by
  induction units with
  | nil => exact Nat.le_refl _
  | cons unit more ih =>
    have here := (unit_head (formed unit List.mem_cons_self) []).2
    have later := ih (fun other member => formed other (List.mem_cons_of_mem unit member))
    rw [List.flatMap_cons, List.length_append, List.length_cons]
    omega

/-- A string that is written is read. -/
theorem string?_spelled {text used : Text} (quoted : Quoted text used) (rest : Text) :
    ∃ behind, used ++ rest = code '"' :: behind ∧ string? behind = some (text, rest) := by
  obtain ⟨units, formed, rfl, rfl⟩ := quoted
  refine ⟨units.flatMap StringUnit.spelled ++ code '"' :: rest, ?_, ?_⟩
  · simp only [List.cons_append, List.append_assoc, List.nil_append]
  · have enough : units.length <
        (units.flatMap StringUnit.spelled ++ code '"' :: rest).length := by
      have bound := length_le_spelled formed
      rw [List.length_append, List.length_cons]
      omega
    rw [string?, units?_spelled formed rest enough, Option.map_some]

/-- A string that is read was written. -/
theorem string?_sound {behind text rest : Text} (read : string? behind = some (text, rest)) :
    ∃ used, code '"' :: behind = used ++ rest ∧ Quoted text used := by
  rw [string?, Option.map_eq_some_iff] at read
  obtain ⟨⟨units, last⟩, read, same⟩ := read
  rw [Prod.mk.injEq] at same
  obtain ⟨rfl, rfl⟩ := same
  obtain ⟨there, formed⟩ := units?_sound read
  refine ⟨_, ?_, units, formed, rfl, rfl⟩
  rw [there]
  simp only [List.cons_append, List.append_assoc, List.nil_append]

end Macr.Lib.JsonText
