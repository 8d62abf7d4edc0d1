import Macr.Iso8601
import Mathlib.Data.List.Lex

/-!
# The order of canonical timestamps

Two moments in UTC are ordered as their texts are, code point by code point, whether or not a
fraction is written. A text that was written is read back and written again as it is. What cannot
be converted to UTC is a moment before the year 1 or after the year 9999.
-/

namespace Macr

open Lib JsonText

/-! ## Moments and instants -/

/-- The moments of the calendar. -/
def InCalendar (instant : Int) : Prop :=
  (dayLength : Int) ≤ instant ∧ instant < ((maxOrdinal + 1) * dayLength : Nat)

/-- A moment is one of the calendar. -/
theorem Datetime.inCalendar (moment : Datetime) : InCalendar moment.instant := by
  have day := moment.date.toOrdinal_range
  have time := moment.time_range
  unfold InCalendar Datetime.instant dayLength
  unfold maxOrdinal at *
  omega

/-- Moments are ordered as their parts are. -/
theorem Datetime.instant_lt_iff {moment other : Datetime} : moment.instant < other.instant ↔
    moment.date.toOrdinal < other.date.toOrdinal ∨ moment.date.toOrdinal = other.date.toOrdinal ∧
      (moment.hour < other.hour ∨ moment.hour = other.hour ∧ (moment.minute < other.minute ∨
        moment.minute = other.minute ∧ (moment.second < other.second ∨
          moment.second = other.second ∧ moment.microsecond < other.microsecond))) := by
  have time := moment.time_range
  have later := other.time_range
  unfold Datetime.instant dayLength
  omega

/-- Two moments of one instant are one. -/
theorem Datetime.instant_injective : Function.Injective Datetime.instant := by
  intro moment other same
  have before : ¬moment.instant < other.instant := by omega
  have after : ¬other.instant < moment.instant := by omega
  rw [Datetime.instant_lt_iff] at before after
  have date : moment.date = other.date := Date.toOrdinal_injective (by omega)
  rw [date] at before after
  apply Datetime.ext date <;> omega

/-- The moment of an instant of the calendar. -/
theorem datetimeOf?_of_inCalendar {instant : Int} (inside : InCalendar instant) :
    ∃ moment, datetimeOf? instant = some moment ∧ (moment.instant : Int) = instant := by
  obtain ⟨whole, rfl⟩ : ∃ whole : Nat, instant = whole :=
    ⟨instant.toNat, by unfold InCalendar dayLength at inside; omega⟩
  have range : 1 ≤ whole / dayLength ∧ whole / dayLength ≤ maxOrdinal := by
    unfold InCalendar dayLength maxOrdinal at inside
    unfold dayLength maxOrdinal
    omega
  obtain ⟨date, found, ordinal⟩ := date?_ordToYmd range
  have time : whole % dayLength / 3600000000 < 24 ∧ whole % 3600000000 / 60000000 < 60 ∧
      whole % 60000000 / 1000000 < 60 ∧ whole % 1000000 < 1000000 := by
    unfold dayLength
    omega
  refine ⟨⟨date, _, _, _, _, time⟩, ?_, ?_⟩
  · unfold datetimeOf? datetime?
    simp only [Int.toNat_natCast, if_pos range, found, dif_pos time, Option.bind_eq_bind,
      Option.bind_some]
  · unfold Datetime.instant
    simp only [ordinal]
    unfold dayLength
    omega

/-- There is no moment outside the calendar. -/
theorem datetimeOf?_of_not_inCalendar {instant : Int} (outside : ¬InCalendar instant) :
    datetimeOf? instant = none := by
  have range : ¬(1 ≤ instant.toNat / dayLength ∧ instant.toNat / dayLength ≤ maxOrdinal) := by
    unfold InCalendar dayLength maxOrdinal at outside
    unfold dayLength maxOrdinal
    omega
  unfold datetimeOf?
  exact if_neg range

/-- The moment that is found is that of the instant. -/
theorem instant_of_datetimeOf? {instant : Int} {moment : Datetime}
    (found : datetimeOf? instant = some moment) : (moment.instant : Int) = instant := by
  by_cases inside : InCalendar instant
  · obtain ⟨other, same, at_⟩ := datetimeOf?_of_inCalendar inside
    rw [found, Option.some.injEq] at same
    rw [same, at_]
  · rw [datetimeOf?_of_not_inCalendar inside] at found
    cases found

/-! ## The order of the texts -/

/-- A separator in both texts does not count. -/
theorem separator_lt_iff {c : Nat} {text rest : Text} : c :: text < c :: rest ↔ text < rest := by
  simp

/-- A fraction that is left out is before every other. -/
theorem fraction_lt_iff {micros other : Nat} (small : micros < 1000000) (less : other < 1000000)
    (zone : Text) :
    (if micros = 0 then [] else code '.' :: decimals 6 micros) ++ code '+' :: zone <
      (if other = 0 then [] else code '.' :: decimals 6 other) ++ code '+' :: zone ↔
      micros < other := by
  have marks : code '+' < code '.' := by decide
  by_cases zero : micros = 0
  · by_cases void : other = 0
    · simp [zero, void]
    · rw [if_pos zero, if_neg void, List.nil_append, List.cons_append, List.cons_lt_cons_iff]
      simp [zero, Nat.pos_of_ne_zero void, marks]
  · by_cases void : other = 0
    · rw [if_neg zero, if_pos void, List.nil_append, List.cons_append, List.cons_lt_cons_iff]
      simp [void, Nat.lt_asymm marks, (Nat.ne_of_lt marks).symm]
    · rw [if_neg zero, if_neg void, List.cons_append, List.cons_append, separator_lt_iff,
        decimals_append_lt_iff (by omega) (by omega)]
      simp

/-- Texts are ordered as the moments they write. -/
theorem isoformat_lt_iff {moment other : Datetime} :
    isoformat moment < isoformat other ↔ moment.instant < other.instant := by
  have year := moment.date.year_range
  have month := moment.date.month_range
  have day := moment.date.day_range
  have days := daysInMonth_le (isLeap moment.date.year) moment.date.month
  have time := moment.time_range
  have otherYear := other.date.year_range
  have otherMonth := other.date.month_range
  have otherDay := other.date.day_range
  have otherDays := daysInMonth_le (isLeap other.date.year) other.date.month
  have otherTime := other.time_range
  unfold isoformat
  rw [decimals_append_lt_iff (by omega) (by omega), separator_lt_iff,
    decimals_append_lt_iff (by omega) (by omega), separator_lt_iff,
    decimals_append_lt_iff (by omega) (by omega), separator_lt_iff,
    decimals_append_lt_iff (by omega) (by omega), separator_lt_iff,
    decimals_append_lt_iff (by omega) (by omega), separator_lt_iff,
    decimals_append_lt_iff (by omega) (by omega)]
  rw [show codes ['+', '0', '0', ':', '0', '0'] = code '+' :: codes ['0', '0', ':', '0', '0'] from
    rfl, fraction_lt_iff time.2.2.2 otherTime.2.2.2, Datetime.instant_lt_iff, Date.toOrdinal_lt_iff]
  have dates : moment.date.toOrdinal = other.date.toOrdinal ↔ moment.date.year = other.date.year ∧
      moment.date.month = other.date.month ∧ moment.date.day = other.date.day := by
    rw [Date.toOrdinal_injective.eq_iff, Date.ext_iff]
  rw [dates]
  omega

/-- A text is at or before another exactly when its moment is. -/
theorem isoformat_le_iff {moment other : Datetime} :
    isoformat moment ≤ isoformat other ↔ moment.instant ≤ other.instant := by
  rw [← not_lt, ← not_lt]
  exact not_congr isoformat_lt_iff

/-! ## Reading what was written -/

/-- The date of a canonical text. -/
def dateText (date : Date) : Text :=
  decimals 4 date.year ++ code '-' :: (decimals 2 date.month ++ code '-' :: decimals 2 date.day)

/-- The time of a canonical text, without its zone. -/
def timeText (moment : Datetime) : Text :=
  decimals 2 moment.hour ++ code ':' :: (decimals 2 moment.minute ++ code ':' ::
    (decimals 2 moment.second ++
      if moment.microsecond = 0 then [] else code '.' :: decimals 6 moment.microsecond))

/-- A canonical text is its date, its time and its zone. -/
theorem isoformat_eq (moment : Datetime) : isoformat moment =
    dateText moment.date ++
      code 'T' :: (timeText moment ++ codes ['+', '0', '0', ':', '0', '0']) := by
  unfold isoformat dateText timeText
  simp only [List.append_assoc, List.cons_append]

theorem dateText_length (date : Date) : (dateText date).length = 10 := by
  simp [dateText, decimals_length]

/-- The first of two decimals, and what follows it. -/
theorem decimals_two (value : Nat) : ∃ first second, decimals 2 value = [first, second] ∧
    isDecimal first = true := by
  refine ⟨_, _, rfl, ?_⟩
  exact isDecimal_digit (Nat.mod_lt _ (by decide))

/-- A date is read back. -/
theorem parseIsoformatDate_dateText (date : Date) :
    parseIsoformatDate (dateText date) = some date := by
  have year := date.year_range
  have month := date.month_range
  have day := date.day_range
  have days := daysInMonth_le (isLeap date.year) date.month
  obtain ⟨first, second, digits, decimal⟩ := decimals_two date.month
  have numeral : first ≠ code 'W' := by
    rintro rfl
    cases decimal
  have ended : readDecimals 2 0 (decimals 2 date.day) = some (date.day, []) := by
    have read := @readDecimals_decimals 2 date.day (by omega) 0 []
    simpa using read
  unfold parseIsoformatDate dateText
  rw [readDecimals_decimals (by omega)]
  simp only [Option.bind_eq_bind, Option.bind_some, List.head?_cons, decide_true, if_true,
    List.tail_cons]
  rw [if_neg (by rw [digits]; simpa using numeral), readDecimals_decimals (by omega)]
  simp only [Option.bind_some, skipSeparator, if_true, ended]
  rw [Nat.zero_mul, Nat.zero_mul, Nat.zero_add, Nat.zero_add]
  exact date?_parts date

/-- A fraction is read back. -/
theorem parseFraction_decimals {micros : Nat} (small : micros < 1000000) :
    parseFraction (decimals 6 micros) = some micros := by
  have read := @readDecimals_decimals 6 micros (by omega) 0 []
  rw [List.append_nil, Nat.zero_mul, Nat.zero_add] at read
  have inhabited : decimals 6 micros ≠ [] :=
    List.ne_nil_of_length_pos (by rw [decimals_length]; decide)
  unfold parseFraction
  simp [decimals_length, read, inhabited]

/-- A time is read back. -/
theorem parseHhMmSsFf_timeText (moment : Datetime) : parseHhMmSsFf (timeText moment) =
    some (moment.hour, moment.minute, moment.second, moment.microsecond) := by
  obtain ⟨hour, minute, second, microsecond⟩ := moment.time_range
  unfold parseHhMmSsFf timeText
  rw [readDecimals_decimals (by omega)]
  simp only [Option.bind_eq_bind, Option.bind_some, List.cons_ne_nil, if_false, List.head?_cons,
    decide_true, if_true, List.tail_cons]
  rw [readDecimals_decimals (by omega)]
  simp only [Option.bind_some, List.cons_ne_nil, if_false, skipSeparator, if_true]
  rw [readDecimals_decimals (by omega)]
  by_cases whole : moment.microsecond = 0
  · simp [whole]
  · simp [whole, parseFraction_decimals microsecond]

/-- No code point of a time starts a zone. -/
theorem timeText_no_zone (moment : Datetime) : ∀ c ∈ timeText moment, (!isZoneMark c) = true := by
  have digit : ∀ c, isDecimal c = true → (!isZoneMark c) = true := by
    intro c decimal
    unfold isDecimal at decimal
    simp only [Bool.and_eq_true, decide_eq_true_eq] at decimal
    have plus : c ≠ code '+' := by rintro rfl; exact absurd decimal (by decide)
    have minus : c ≠ code '-' := by rintro rfl; exact absurd decimal (by decide)
    have zulu : c ≠ code 'Z' := by rintro rfl; exact absurd decimal (by decide)
    simp [isZoneMark, plus, minus, zulu]
  have colon : (!isZoneMark (code ':')) = true := by decide
  have point : (!isZoneMark (code '.')) = true := by decide
  intro c member
  unfold timeText at member
  simp only [List.mem_append, List.mem_cons] at member
  rcases member with written | rfl | written | rfl | written | written
  · exact digit c (isDecimal_of_mem written)
  · exact colon
  · exact digit c (isDecimal_of_mem written)
  · exact colon
  · exact digit c (isDecimal_of_mem written)
  · split at written
    · cases written
    · rcases List.mem_cons.mp written with rfl | decimal
      · exact point
      · exact digit c (isDecimal_of_mem decimal)

/-- No offset is that of UTC. -/
theorem utcOffset?_zero : utcOffset? false (0, 0, 0, 0) = some .utc := by
  have range : 0 * 3600000000 + 0 * 60000000 + 0 * 1000000 + 0 < dayLength := by decide
  unfold utcOffset?
  dsimp only
  rw [dif_pos range]
  rfl

/-- A time in UTC is read back. -/
theorem parseIsoformatTime_timeText (moment : Datetime) :
    parseIsoformatTime (timeText moment ++ codes ['+', '0', '0', ':', '0', '0']) =
      some ((moment.hour, moment.minute, moment.second, moment.microsecond), some .utc) := by
  have ends : ¬(!isZoneMark (code '+')) = true := by decide
  have zone : parseHhMmSsFf (codes ['0', '0', ':', '0', '0']) = some (0, 0, 0, 0) := by decide
  unfold parseIsoformatTime
  rw [show codes ['+', '0', '0', ':', '0', '0'] = code '+' :: codes ['0', '0', ':', '0', '0'] from
      rfl, List.takeWhile_append_of_pos (timeText_no_zone moment),
    List.takeWhile_cons_of_neg (p := (!isZoneMark ·)) ends, List.append_nil,
    List.dropWhile_append_of_pos (timeText_no_zone moment),
    List.dropWhile_cons_of_neg (p := (!isZoneMark ·)) ends, parseHhMmSsFf_timeText]
  rw [Option.bind_eq_bind, Option.bind_some]
  show (if code '+' = code 'Z' then _ else _) = _
  rw [if_neg (by decide), zone, Option.bind_eq_bind, Option.bind_some,
    decide_eq_false (by decide), utcOffset?_zero]
  rfl

/-- A canonical text has its separator behind ten code points. -/
theorem findIsoformatDatetimeSeparator_dateText (date : Date) (rest : Text) :
    findIsoformatDatetimeSeparator (dateText date ++ code 'T' :: rest) = some 10 := by
  obtain ⟨first, second, digits, decimal⟩ := decimals_two date.month
  have numeral : first ≠ code 'W' := by
    rintro rfl
    cases decimal
  have longer : (dateText date ++ code 'T' :: rest).length ≠ 7 := by
    rw [List.length_append, dateText_length]
    omega
  have dash : (dateText date ++ code 'T' :: rest)[4]? = some (code '-') := rfl
  have month : (dateText date ++ code 'T' :: rest)[5]? = some first := by
    unfold dateText
    rw [digits]
    rfl
  unfold findIsoformatDatetimeSeparator
  rw [if_neg longer, if_pos dash, month, if_neg (by simpa using numeral)]

/-- A canonical text is read back. -/
theorem fromisoformat_isoformat (moment : Datetime) :
    fromisoformat (isoformat moment) = some ⟨moment, some .utc⟩ := by
  have length := dateText_length moment.date
  have longer : ¬(isoformat moment).length < 7 := by
    rw [isoformat_eq, List.length_append, length]
    omega
  have whole : datetime? moment.date moment.hour moment.minute moment.second moment.microsecond =
      some moment := dif_pos moment.time_range
  have clock : ∃ c rest, timeText moment ++ codes ['+', '0', '0', ':', '0', '0'] = c :: rest :=
    ⟨_, _, rfl⟩
  have time := parseIsoformatTime_timeText moment
  obtain ⟨c, rest, split⟩ := clock
  rw [split] at time
  unfold fromisoformat
  rw [if_neg longer, isoformat_eq, findIsoformatDatetimeSeparator_dateText, split]
  simp only [Option.bind_eq_bind, Option.bind_some]
  rw [List.take_left' length, List.drop_append, length, parseIsoformatDate_dateText]
  simp only [Nat.add_sub_cancel_left, List.drop_succ_cons, List.drop_zero, Option.bind_some]
  rw [List.drop_eq_nil_of_le (by omega), List.nil_append]
  simp only [time, whole, Option.bind_some]
  rfl

/-! ## `aware_iso8601` -/

/-- The instant of a text that states its zone. -/
def instantOf? (value : Text) : Option Int :=
  (fromisoformat value).bind (fun parsed =>
    parsed.tzinfo.map (fun offset => parsed.moment.instant - offset.microseconds))

section Aware

variable {name : String} {value text : Text}

/-- What is returned is the canonical text of the instant. -/
theorem awareIso8601_eq_ok : awareIso8601 name value = .ok text ↔ strip name ≠ "" ∧
    ∃ moment : Datetime, instantOf? value = some (moment.instant : Int) ∧
      text = isoformat moment := by
  unfold awareIso8601 instantOf?
  by_cases blank : strip name = ""
  · simp [blank]
  rw [if_neg blank]
  cases parsed : fromisoformat value with
  | none => simp
  | some read =>
    obtain ⟨moment, tzinfo⟩ := read
    cases tzinfo with
    | none => simp
    | some offset =>
      dsimp only [Option.bind_some, Option.map_some]
      unfold astimezoneUtc
      constructor
      · intro returned
        cases found : datetimeOf? (moment.instant - offset.microseconds) with
        | none => simp [found] at returned
        | some utc =>
          simp only [found, Except.ok.injEq] at returned
          exact ⟨blank, utc, by rw [instant_of_datetimeOf? found], returned.symm⟩
      · rintro ⟨_, utc, at_, rfl⟩
        rw [Option.some.injEq] at at_
        obtain ⟨other, found, same⟩ := datetimeOf?_of_inCalendar utc.inCalendar
        have equal : other = utc := Datetime.instant_injective (by exact_mod_cast same)
        rw [at_, found, equal]

/-- A text that is returned is returned for itself. -/
theorem awareIso8601_idempotent (returned : awareIso8601 name value = .ok text) :
    awareIso8601 name text = .ok text := by
  obtain ⟨inhabited, moment, _, rfl⟩ := awareIso8601_eq_ok.mp returned
  refine awareIso8601_eq_ok.mpr ⟨inhabited, moment, ?_, rfl⟩
  unfold instantOf?
  rw [fromisoformat_isoformat]
  show some ((moment.instant : Int) - 0) = _
  rw [Int.sub_zero]

/-- Only an instant outside the calendar raises something else than a `ValueError`. -/
theorem awareIso8601_raises :
    (∀ raised, awareIso8601 name value = .error raised → ∃ message, raised = .valueError message) ↔
      strip name = "" ∨ ∀ instant, instantOf? value = some instant → InCalendar instant := by
  unfold awareIso8601 instantOf?
  by_cases blank : strip name = ""
  · simp [blank]
  rw [if_neg blank]
  cases parsed : fromisoformat value with
  | none => simp
  | some read =>
    obtain ⟨moment, tzinfo⟩ := read
    cases tzinfo with
    | none => simp
    | some offset =>
      dsimp only [Option.bind_some, Option.map_some]
      unfold astimezoneUtc
      by_cases inside : InCalendar (moment.instant - offset.microseconds)
      · obtain ⟨utc, found, _⟩ := datetimeOf?_of_inCalendar inside
        simp [found, inside]
      · rw [datetimeOf?_of_not_inCalendar inside]
        simp [blank, inside]

end Aware

/-- What two timestamps are to satisfy: their canonical texts are ordered as their instants, the
first is returned for itself, and a `ValueError` is raised where no text is returned. -/
structure ComparesAsText (name : String) (value other : Text) : Prop where
  /-- Texts are ordered as instants. -/
  order : ∀ text later, awareIso8601 name value = .ok text → awareIso8601 name other = .ok later →
    ∃ instant second, instantOf? value = some instant ∧ instantOf? other = some second ∧
      (text ≤ later ↔ instant ≤ second)
  /-- A canonical text is its own. -/
  idempotent : ∀ text, awareIso8601 name value = .ok text → awareIso8601 name text = .ok text
  /-- What is refused raises a `ValueError`. -/
  raises : ∀ raised, awareIso8601 name value = .error raised →
    ∃ message, raised = .valueError message

/-- The first hour of the calendar east of Greenwich. -/
def firstHour : Text := codes "0001-01-01T00:00:00+01:00".toList

end Macr
