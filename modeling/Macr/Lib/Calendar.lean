import Mathlib.Data.Nat.Basic
import Mathlib.Tactic.Common
import Mathlib.Tactic.IntervalCases

/-!
# The proleptic Gregorian calendar

Dates of the years 1 to 9999 and their ordinals, the number of days since the end of the year 0.
Years, months and days are ordered as their ordinals are, and every ordinal in the range is that
of one date.
-/

namespace Macr.Lib

/-- A year with 366 days. -/
def isLeap (year : Nat) : Bool := year % 4 = 0 && (year % 100 ≠ 0 || year % 400 = 0)

/-- How many days a month has. -/
def daysInMonth (leap : Bool) : Nat → Nat
  | 2 => if leap then 29 else 28
  | 4 | 6 | 9 | 11 => 30
  | _ => 31

/-- How many days of its year are before a month. -/
def daysBeforeMonth (leap : Bool) : Nat → Nat
  | 0 | 1 => 0
  | month + 2 => daysBeforeMonth leap (month + 1) + daysInMonth leap (month + 1)

/-- How many days are before a year. -/
def daysBeforeYear (year : Nat) : Nat :=
  (year - 1) * 365 + (year - 1) / 4 - (year - 1) / 100 + (year - 1) / 400

/-- A date of the calendar. -/
@[ext]
structure Date where
  /-- The year. -/
  year : Nat
  /-- The month, from 1. -/
  month : Nat
  /-- The day, from 1. -/
  day : Nat
  /-- The year has four digits. -/
  year_range : 1 ≤ year ∧ year ≤ 9999
  /-- The month is one of twelve. -/
  month_range : 1 ≤ month ∧ month ≤ 12
  /-- The day is one of its month. -/
  day_range : 1 ≤ day ∧ day ≤ daysInMonth (isLeap year) month
deriving DecidableEq

/-- A date from its parts, if there is one. -/
def date? (year month day : Nat) : Option Date :=
  if valid : (1 ≤ year ∧ year ≤ 9999) ∧ (1 ≤ month ∧ month ≤ 12) ∧
      1 ≤ day ∧ day ≤ daysInMonth (isLeap year) month then
    some ⟨year, month, day, valid.1, valid.2.1, valid.2.2⟩
  else none

/-- The parts of a date are those of a date. -/
theorem date?_parts (date : Date) : date? date.year date.month date.day = some date := by
  unfold date?
  rw [dif_pos ⟨date.year_range, date.month_range, date.day_range⟩]

/-- The last ordinal, of the 31st of December 9999. -/
def maxOrdinal : Nat := 3652059

/-! ## Months -/

/-- A month has at most 31 days. -/
theorem daysInMonth_le (leap : Bool) (month : Nat) : daysInMonth leap month ≤ 31 := by
  unfold daysInMonth
  cases leap <;> split <;> simp

/-- A later month is behind the days of an earlier one. -/
theorem daysBeforeMonth_lt {leap : Bool} {earlier later : Nat} (first : 1 ≤ earlier)
    (order : earlier < later) :
    daysBeforeMonth leap earlier + daysInMonth leap earlier ≤ daysBeforeMonth leap later := by
  induction order with
  | refl =>
    obtain ⟨before, rfl⟩ : ∃ before, earlier = before + 1 := ⟨earlier - 1, by omega⟩
    exact Nat.le_of_eq rfl
  | @step later order ih =>
    obtain ⟨before, rfl⟩ : ∃ before, later = before + 1 :=
      ⟨later - 1, by have := Nat.lt_of_succ_le order; omega⟩
    have grown : daysBeforeMonth leap (before + 1) ≤ daysBeforeMonth leap (before + 1 + 1) :=
      Nat.le_add_right _ _
    exact Nat.le_trans ih grown

/-- The days of a month end with its year, at the latest. -/
theorem daysBeforeMonth_le {leap : Bool} {month : Nat} (range : 1 ≤ month ∧ month ≤ 12) :
    daysBeforeMonth leap month + daysInMonth leap month ≤ 365 + leap.toNat := by
  have whole : daysBeforeMonth leap 13 = 365 + leap.toNat := by cases leap <;> decide
  exact whole ▸ daysBeforeMonth_lt range.1 (Nat.lt_succ_of_le range.2)

/-! ## Years -/

/-- A quotient grows where the divisor divides. -/
theorem succ_div (value size : Nat) :
    (value + 1) / size = value / size + (decide ((value + 1) % size = 0)).toNat := by
  rw [Nat.succ_div]
  split
  case isTrue divides => simp [Nat.mod_eq_zero_of_dvd divides]
  case isFalse apart =>
    have remains : ¬(value + 1) % size = 0 := fun given => apart (Nat.dvd_of_mod_eq_zero given)
    simp [remains]

/-- A year ends where the next begins. -/
theorem daysBeforeYear_succ {year : Nat} (first : 1 ≤ year) :
    daysBeforeYear (year + 1) = daysBeforeYear year + 365 + (isLeap year).toNat := by
  obtain ⟨before, rfl⟩ : ∃ before, year = before + 1 := ⟨year - 1, by omega⟩
  have four : (before + 1) % 100 = 0 → (before + 1) % 4 = 0 := by omega
  have hundred : (before + 1) % 400 = 0 → (before + 1) % 100 = 0 := by omega
  have fewer : before / 100 ≤ before / 4 := Nat.div_le_div_left (by decide) (by decide)
  unfold daysBeforeYear isLeap
  simp only [Nat.add_sub_cancel]
  rw [succ_div before 4, succ_div before 100, succ_div before 400]
  generalize before / 4 = fours at *
  generalize before / 100 = hundreds at *
  generalize before / 400 = cycles at *
  by_cases fourth : (before + 1) % 4 = 0
  · by_cases hundredth : (before + 1) % 100 = 0
    · by_cases last : (before + 1) % 400 = 0
      · simp [fourth, hundredth, last]
        omega
      · simp [fourth, hundredth, last]
        omega
    · have never : (before + 1) % 400 ≠ 0 := fun given => hundredth (hundred given)
      simp [fourth, hundredth, never]
      omega
  · have never : (before + 1) % 100 ≠ 0 := fun given => fourth (four given)
    have neither : (before + 1) % 400 ≠ 0 := fun given => never (hundred given)
    simp [fourth, never, neither]
    omega

/-- A later year is behind the days of an earlier one. -/
theorem daysBeforeYear_lt {earlier later : Nat} (first : 1 ≤ earlier) (order : earlier < later) :
    daysBeforeYear earlier + 365 + (isLeap earlier).toNat ≤ daysBeforeYear later := by
  induction order with
  | refl => exact Nat.le_of_eq (daysBeforeYear_succ first).symm
  | @step later order ih =>
    have next := daysBeforeYear_succ (Nat.le_trans first (Nat.le_of_lt order))
    rw [Nat.succ_eq_add_one]
    omega

/-! ## Ordinals -/

namespace Date

/-- `date.toordinal`. -/
def toOrdinal (date : Date) : Nat :=
  daysBeforeYear date.year + daysBeforeMonth (isLeap date.year) date.month + date.day

variable (date other : Date)

/-- A date is in its year. -/
theorem toOrdinal_bounds : daysBeforeYear date.year < date.toOrdinal ∧
    date.toOrdinal ≤ daysBeforeYear date.year + 365 + (isLeap date.year).toNat := by
  have inside := @daysBeforeMonth_le (isLeap date.year) _ date.month_range
  have day := date.day_range
  unfold toOrdinal
  omega

/-- An ordinal is in the range. -/
theorem toOrdinal_range : 1 ≤ date.toOrdinal ∧ date.toOrdinal ≤ maxOrdinal := by
  obtain ⟨lower, upper⟩ := date.toOrdinal_bounds
  have final : daysBeforeYear 10000 = maxOrdinal := by decide
  have within := daysBeforeYear_lt date.year_range.1 (Nat.lt_succ_of_le date.year_range.2)
  rw [final] at within
  omega

variable {date other}

/-- Dates are ordered by year, month and day as by ordinal. -/
theorem toOrdinal_lt_iff : date.toOrdinal < other.toOrdinal ↔
    date.year < other.year ∨ date.year = other.year ∧ (date.month < other.month ∨
      date.month = other.month ∧ date.day < other.day) := by
  have ordered : ∀ {date other : Date}, date.year < other.year ∨ date.year = other.year ∧
      (date.month < other.month ∨ date.month = other.month ∧ date.day < other.day) →
      date.toOrdinal < other.toOrdinal := by
    intro date other before
    rcases before with year | ⟨year, month | ⟨month, day⟩⟩
    · have later := daysBeforeYear_lt date.year_range.1 year
      have left := date.toOrdinal_bounds
      have right := other.toOrdinal_bounds
      omega
    · have later := @daysBeforeMonth_lt (isLeap date.year) _ _ date.month_range.1 month
      have left := date.day_range
      have right := other.day_range
      unfold toOrdinal
      rw [← year]
      omega
    · unfold toOrdinal
      rw [← year, ← month]
      omega
  refine ⟨fun less => ?_, ordered⟩
  by_contra never
  have backward : other.year < date.year ∨ other.year = date.year ∧ (other.month < date.month ∨
      other.month = date.month ∧ other.day ≤ date.day) := by omega
  rcases backward with year | ⟨year, month | ⟨month, day⟩⟩
  · exact absurd (ordered (.inl year)) (by omega)
  · exact absurd (ordered (.inr ⟨year, .inl month⟩)) (by omega)
  · rcases Nat.lt_or_eq_of_le day with less_day | same
    · exact absurd (ordered (.inr ⟨year, .inr ⟨month, less_day⟩⟩)) (by omega)
    · have equal : other = date := Date.ext year month same
      rw [equal] at less
      omega

end Date

/-- Two dates of one ordinal are one. -/
theorem Date.toOrdinal_injective : Function.Injective Date.toOrdinal := by
  intro date other same
  have before : ¬date.toOrdinal < other.toOrdinal := by omega
  have after : ¬other.toOrdinal < date.toOrdinal := by omega
  rw [Date.toOrdinal_lt_iff] at before after
  apply Date.ext <;> omega

/-! ## From ordinals -/

/-- The month and the day of the days of a year, as `_ord2ymd` finds them: an estimate that is one
month too far at most. -/
def monthDay (leap : Bool) (days : Nat) : Nat × Nat :=
  let month := (days + 50) / 32
  if days < daysBeforeMonth leap month then
    (month - 1, days - daysBeforeMonth leap (month - 1) + 1)
  else (month, days - daysBeforeMonth leap month + 1)

/-- `_ord2ymd`. -/
def ordToYmd (ordinal : Nat) : Nat × Nat × Nat :=
  let n400 := (ordinal - 1) / 146097
  let n100 := (ordinal - 1) % 146097 / 36524
  let n4 := (ordinal - 1) % 146097 % 36524 / 1461
  let n1 := (ordinal - 1) % 146097 % 36524 % 1461 / 365
  let year := n400 * 400 + 1 + n100 * 100 + n4 * 4 + n1
  if n1 = 4 ∨ n100 = 4 then (year - 1, 12, 31)
  else
    (year, monthDay (n1 = 3 && (n4 ≠ 24 || n100 = 3))
      ((ordinal - 1) % 146097 % 36524 % 1461 % 365))

/-- The month and the day that are found are those of the day of the year. -/
theorem monthDay_correct (leap : Bool) {days : Nat} (inside : days < 365 + leap.toNat) :
    (1 ≤ (monthDay leap days).1 ∧ (monthDay leap days).1 ≤ 12) ∧
      (1 ≤ (monthDay leap days).2 ∧
        (monthDay leap days).2 ≤ daysInMonth leap (monthDay leap days).1) ∧
      daysBeforeMonth leap (monthDay leap days).1 + (monthDay leap days).2 = days + 1 := by
  have few : days < 366 := lt_of_lt_of_le inside (by cases leap <;> decide)
  obtain ⟨month, estimate, lower, upper⟩ : ∃ month, (days + 50) / 32 = month ∧
      32 * month ≤ days + 50 ∧ days + 50 < 32 * month + 32 := ⟨_, rfl, by omega, by omega⟩
  have first : 1 ≤ month := by omega
  have last : month ≤ 12 := by omega
  unfold monthDay
  rw [estimate]
  clear estimate
  cases leap
  all_goals
    simp only [Bool.toNat_false, Bool.toNat_true] at inside
    interval_cases month
    all_goals
      dsimp only
      split <;> simp [daysBeforeMonth, daysInMonth] at * <;> omega

/-- A year in its cycles of 400, 100 and 4. -/
theorem daysBeforeYear_cycles {n400 n100 n4 n1 : Nat} (years : n1 ≤ 3) (fours : n4 ≤ 24)
    (hundreds : n100 ≤ 3) : daysBeforeYear (n400 * 400 + 1 + n100 * 100 + n4 * 4 + n1) =
      n400 * 146097 + n100 * 36524 + n4 * 1461 + n1 * 365 := by
  have fourth : (n400 * 400 + 1 + n100 * 100 + n4 * 4 + n1 - 1) / 4 =
      n400 * 100 + n100 * 25 + n4 := by omega
  have hundredth : (n400 * 400 + 1 + n100 * 100 + n4 * 4 + n1 - 1) / 100 = n400 * 4 + n100 := by
    omega
  have last : (n400 * 400 + 1 + n100 * 100 + n4 * 4 + n1 - 1) / 400 = n400 := by omega
  unfold daysBeforeYear
  rw [fourth, hundredth, last]
  omega

/-- The last year of four is a leap year, but for the last of a hundred, but for that of 400. -/
theorem isLeap_cycles {n400 n100 n4 n1 : Nat} (years : n1 ≤ 3) (fours : n4 ≤ 24)
    (hundreds : n100 ≤ 3) : isLeap (n400 * 400 + 1 + n100 * 100 + n4 * 4 + n1) =
      (decide (n1 = 3) && (decide (n4 ≠ 24) || decide (n100 = 3))) := by
  have fourth : (n400 * 400 + 1 + n100 * 100 + n4 * 4 + n1) % 4 = 0 ↔ n1 = 3 := by omega
  have hundredth : (n400 * 400 + 1 + n100 * 100 + n4 * 4 + n1) % 100 = 0 ↔ n4 = 24 ∧ n1 = 3 := by
    omega
  have last : (n400 * 400 + 1 + n100 * 100 + n4 * 4 + n1) % 400 = 0 ↔
      n100 = 3 ∧ n4 = 24 ∧ n1 = 3 := by omega
  unfold isLeap
  simp only [ne_eq, fourth, hundredth, last]
  by_cases year : n1 = 3 <;> by_cases four : n4 = 24 <;> by_cases hundred : n100 = 3 <;>
    simp [year, four, hundred]

/-- The last day of a leap year, by its ordinal. -/
theorem date?_lastOfLeap {year : Nat} (range : 1 ≤ year ∧ year ≤ 9999) (leap : isLeap year = true) :
    ∃ date : Date, date? year 12 31 = some date ∧
      date.toOrdinal = daysBeforeYear year + 366 := by
  have before : daysBeforeMonth true 12 = 335 := by decide
  refine ⟨⟨year, 12, 31, range, by decide, by rw [leap]; decide⟩, ?_, ?_⟩
  · exact dif_pos ⟨range, by decide, by rw [leap]; decide⟩
  · show daysBeforeYear year + daysBeforeMonth (isLeap year) 12 + 31 = _
    rw [leap, before]

/-- The date of a day of a year. -/
theorem date?_monthDay {year days : Nat} (range : 1 ≤ year ∧ year ≤ 9999)
    (inside : days < 365 + (isLeap year).toNat) :
    ∃ date : Date, date? year (monthDay (isLeap year) days).1 (monthDay (isLeap year) days).2 =
      some date ∧ date.toOrdinal = daysBeforeYear year + days + 1 := by
  obtain ⟨month, day, found⟩ := monthDay_correct (isLeap year) inside
  refine ⟨⟨year, _, _, range, month, day⟩, dif_pos ⟨range, month, day⟩, ?_⟩
  unfold Date.toOrdinal
  simp only
  omega

/-- A quotient and its remainder. -/
theorem divided (value : Nat) {size : Nat} (positive : 0 < size) :
    value = size * (value / size) + value % size ∧ value % size < size :=
  ⟨(Nat.div_add_mod value size).symm, Nat.mod_lt value positive⟩

/-- The date of an ordinal. -/
theorem date?_ordToYmd {ordinal : Nat} (range : 1 ≤ ordinal ∧ ordinal ≤ maxOrdinal) :
    ∃ date : Date, date? (ordToYmd ordinal).1 (ordToYmd ordinal).2.1 (ordToYmd ordinal).2.2 =
      some date ∧ date.toOrdinal = ordinal := by
  have limit : ordinal ≤ 3652059 := range.2
  unfold ordToYmd
  obtain ⟨all, within⟩ := @divided (ordinal - 1) 146097 (by decide)
  generalize (ordinal - 1) / 146097 = n400 at *
  generalize (ordinal - 1) % 146097 = cycle at *
  obtain ⟨hundreds, inHundred⟩ := @divided cycle 36524 (by decide)
  generalize cycle / 36524 = n100 at *
  generalize cycle % 36524 = century at *
  obtain ⟨fours, inFour⟩ := @divided century 1461 (by decide)
  generalize century / 1461 = n4 at *
  generalize century % 1461 = quadrennium at *
  obtain ⟨years, inYear⟩ := @divided quadrennium 365 (by decide)
  generalize quadrennium / 365 = n1 at *
  generalize quadrennium % 365 = days at *
  dsimp only
  split
  case isTrue last =>
    -- The last day of a cycle of four or of 400 years is one more than its years hold.
    obtain ⟨hundred, four, few, fewer, exempt, year, total⟩ : ∃ hundred four, hundred ≤ 3 ∧
        four ≤ 24 ∧ (four ≠ 24 ∨ hundred = 3) ∧ n400 * 400 + 1 + n100 * 100 + n4 * 4 + n1 - 1 =
          n400 * 400 + 1 + hundred * 100 + four * 4 + 3 ∧
        ordinal = n400 * 146097 + hundred * 36524 + four * 1461 + (3 * 365 + 366) := by
      by_cases century : n100 = 4
      · exact ⟨3, 24, by omega⟩
      · exact ⟨n100, n4, by omega⟩
    rw [year]
    have leap : isLeap (n400 * 400 + 1 + hundred * 100 + four * 4 + 3) = true := by
      rw [isLeap_cycles (by decide) fewer few]
      rcases exempt with four_less | hundred_last
      · simp [four_less]
      · simp [hundred_last]
    obtain ⟨date, found, at_⟩ := date?_lastOfLeap (by omega) leap
    refine ⟨date, found, ?_⟩
    rw [at_, daysBeforeYear_cycles (by decide) fewer few, total, Nat.add_assoc _ (3 * 365) 366]
  case isFalse inner =>
    have bounds : n1 ≤ 3 ∧ n4 ≤ 24 ∧ n100 ≤ 3 ∧ days < 365 := by omega
    obtain ⟨few, fewer, fewest, inside⟩ := bounds
    rw [← @isLeap_cycles n400 _ _ _ few fewer fewest]
    obtain ⟨date, found, at_⟩ := @date?_monthDay
      (n400 * 400 + 1 + n100 * 100 + n4 * 4 + n1) days (by omega) (by omega)
    refine ⟨date, found, ?_⟩
    rw [at_, daysBeforeYear_cycles few fewer fewest]
    omega

end Macr.Lib
