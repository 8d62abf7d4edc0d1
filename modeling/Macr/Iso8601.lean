import Macr.Errors
import Macr.Lib.Calendar
import Macr.Lib.Decimals
import Macr.Lib.Text

/-!
# Canonical timestamps

`canonical.aware_iso8601` over `datetime.fromisoformat`, `datetime.astimezone` and
`datetime.isoformat`. A text is a list of code points. The reader follows the formats of the
standard library: dates with and without dashes, by month or by week, any one code point between
the date and the time, a fraction of the second of any length, and offsets below a day.
-/

namespace Macr

open Lib JsonText

/-! ## Instants -/

/-- A `datetime` without its time zone. -/
@[ext]
structure Datetime where
  /-- The date. -/
  date : Date
  /-- The hour. -/
  hour : Nat
  /-- The minute. -/
  minute : Nat
  /-- The second. -/
  second : Nat
  /-- The microsecond. -/
  microsecond : Nat
  /-- The time is one of a day. -/
  time_range : hour < 24 ∧ minute < 60 ∧ second < 60 ∧ microsecond < 1000000
deriving DecidableEq

/-- The microseconds of a day. -/
def dayLength : Nat := 86400000000

/-- The microseconds since the last day of the year 0. -/
def Datetime.instant (moment : Datetime) : Nat :=
  moment.date.toOrdinal * dayLength + moment.hour * 3600000000 + moment.minute * 60000000 +
    moment.second * 1000000 + moment.microsecond

/-- A `datetime` from its parts, if they are in their ranges. -/
def datetime? (date : Date) (hour minute second microsecond : Nat) : Option Datetime :=
  if valid : hour < 24 ∧ minute < 60 ∧ second < 60 ∧ microsecond < 1000000 then
    some ⟨date, hour, minute, second, microsecond, valid⟩
  else none

/-- The `datetime` of an instant, if it is one of the calendar. -/
def datetimeOf? (instant : Int) : Option Datetime := do
  let moment := instant.toNat
  let ordinal := moment / dayLength
  if 1 ≤ ordinal ∧ ordinal ≤ maxOrdinal then
    let (year, month, day) := ordToYmd ordinal
    let date ← date? year month day
    datetime? date (moment % dayLength / 3600000000) (moment % 3600000000 / 60000000)
      (moment % 60000000 / 1000000) (moment % 1000000)
  else none

/-- An offset of a time zone: less than a day. -/
structure UtcOffset where
  /-- The microseconds ahead of UTC. -/
  microseconds : Int
  /-- `timezone` refuses a whole day. -/
  range : microseconds.natAbs < dayLength
deriving DecidableEq

/-- `timezone.utc`. -/
def UtcOffset.utc : UtcOffset := ⟨0, by decide⟩

/-- `astimezone(timezone.utc)`, without the result that raises `OverflowError`. -/
def astimezoneUtc (moment : Datetime) (offset : UtcOffset) : Option Datetime :=
  datetimeOf? (moment.instant - offset.microseconds)

/-! ## Writing -/

/-- `isoformat` of a `datetime` in UTC: the fraction is left out when it is zero. -/
def isoformat (moment : Datetime) : Text :=
  decimals 4 moment.date.year ++ code '-' :: (decimals 2 moment.date.month ++ code '-' ::
    (decimals 2 moment.date.day ++ code 'T' :: (decimals 2 moment.hour ++ code ':' ::
      (decimals 2 moment.minute ++ code ':' :: (decimals 2 moment.second ++
        ((if moment.microsecond = 0 then [] else code '.' :: decimals 6 moment.microsecond) ++
          codes ['+', '0', '0', ':', '0', '0']))))))

/-! ## Reading -/

/-- `_isoweek_to_gregorian`. -/
def isoweekToGregorian (year week day : Nat) : Option Date :=
  let firstDay := daysBeforeYear year + 1
  let firstWeekday := (firstDay + 6) % 7
  let longYear := firstDay % 7 = 4 ∨ (firstDay % 7 = 3 ∧ isLeap year)
  if (1 ≤ year ∧ year ≤ 9999) ∧ (1 ≤ week ∧ (week ≤ 52 ∨ (week = 53 ∧ longYear))) ∧
      (1 ≤ day ∧ day ≤ 7) then
    let weekOneMonday := firstDay + (if 3 < firstWeekday then 7 else 0) - firstWeekday
    let (year, month, day) := ordToYmd (weekOneMonday + (week - 1) * 7 + (day - 1))
    date? year month day
  else none

/-- The separator between two parts, which is there between all or between none. -/
def skipSeparator (separator : Nat) (present : Bool) (text : Text) : Option Text :=
  match text with
  | c :: rest =>
    if present then (if c = separator then some rest else none)
    else if c = separator then none else some text
  | [] => if present then none else some []

/-- `_parse_isoformat_date`. -/
def parseIsoformatDate (text : Text) : Option Date := do
  let (year, rest) ← readDecimals 4 0 text
  let hasSep := rest.head? = some (code '-')
  let rest := if hasSep then rest.tail else rest
  if rest.head? = some (code 'W') then
    let (week, rest) ← readDecimals 2 0 rest.tail
    if rest = [] then isoweekToGregorian year week 1
    else
      let rest ← skipSeparator (code '-') hasSep rest
      let (day, rest) ← readDecimals 1 0 rest
      if rest = [] then isoweekToGregorian year week day else none
  else
    let (month, rest) ← readDecimals 2 0 rest
    let rest ← skipSeparator (code '-') hasSep rest
    let (day, rest) ← readDecimals 2 0 rest
    if rest = [] then date? year month day else none

/-- A fraction of a second, cut off behind the microseconds. -/
def parseFraction (text : Text) : Option Nat := do
  let count := min 6 text.length
  let (value, rest) ← readDecimals count 0 text
  if text ≠ [] ∧ rest.all isDecimal then some (value * 10 ^ (6 - count)) else none

/-- `_parse_hh_mm_ss_ff`: hours, minutes, seconds and microseconds. -/
def parseHhMmSsFf (text : Text) : Option (Nat × Nat × Nat × Nat) := do
  let (hour, rest) ← readDecimals 2 0 text
  if rest = [] then return (hour, 0, 0, 0)
  let hasSep := rest.head? = some (code ':')
  let (minute, rest) ← readDecimals 2 0 (if hasSep then rest.tail else rest)
  if rest = [] then return (hour, minute, 0, 0)
  let rest ← skipSeparator (code ':') hasSep rest
  let (second, rest) ← readDecimals 2 0 rest
  match rest with
  | [] => return (hour, minute, second, 0)
  | mark :: fraction =>
    if mark = code '.' ∨ mark = code ',' then
      return (hour, minute, second, ← parseFraction fraction)
    else none

/-- The offset of a time zone from its parts. -/
def utcOffset? (behind : Bool) (parts : Nat × Nat × Nat × Nat) : Option UtcOffset :=
  let (hours, minutes, seconds, micros) := parts
  let total := hours * 3600000000 + minutes * 60000000 + seconds * 1000000 + micros
  if range : total < dayLength then
    some ⟨if behind then -(total : Int) else total, by split <;> simpa using range⟩
  else none

/-- A code point that ends the time of day. -/
def isZoneMark (c : Nat) : Bool := c = code '+' || c = code '-' || c = code 'Z'

/-- `_parse_isoformat_time`. -/
def parseIsoformatTime (text : Text) : Option ((Nat × Nat × Nat × Nat) × Option UtcOffset) := do
  let parts ← parseHhMmSsFf (text.takeWhile (!isZoneMark ·))
  match text.dropWhile (!isZoneMark ·) with
  | [] => return (parts, none)
  | mark :: zone =>
    if mark = code 'Z' then
      if zone = [] then return (parts, some .utc) else none
    else
      let away ← parseHhMmSsFf zone
      let offset ← utcOffset? (mark = code '-') away
      return (parts, some offset)

/-- `_find_isoformat_datetime_separator`: where the date ends. -/
def findIsoformatDatetimeSeparator (text : Text) : Option Nat :=
  if text.length = 7 then some 7
  else if text[4]? = some (code '-') then
    if text[5]? = some (code 'W') then
      if text[8]? = some (code '-') then
        if text.length = 9 then none
        else if (text[10]?).any isDecimal then some 8 else some 10
      else some 8
    else some 10
  else if text[4]? = some (code 'W') then
    -- An odd number of digits behind the week has the day of the week in front.
    let position := 7 + ((text.drop 7).takeWhile isDecimal).length
    if position < 9 then some position else if position % 2 = 0 then some 7 else some 8
  else some 8

/-- What `datetime.fromisoformat` returns. -/
structure ParsedDatetime where
  /-- The local time. -/
  moment : Datetime
  /-- The time zone. -/
  tzinfo : Option UtcOffset
deriving DecidableEq

/-- `datetime.fromisoformat`, without the `ValueError` of a text it refuses. -/
def fromisoformat (text : Text) : Option ParsedDatetime := do
  if text.length < 7 then none
  else
    let location ← findIsoformatDatetimeSeparator text
    let date ← parseIsoformatDate (text.take location)
    match text.drop (location + 1) with
    | [] => return ⟨← datetime? date 0 0 0 0, none⟩
    | c :: clock =>
      let ((hour, minute, second, microsecond), tzinfo) ← parseIsoformatTime (c :: clock)
      return ⟨← datetime? date hour minute second microsecond, tzinfo⟩

/-- `aware_iso8601`. -/
def awareIso8601 (name : String) (value : Text) : Except MacrError Text :=
  if strip name = "" then .error (.valueError "timestamp name must be non-empty")
  else match fromisoformat value with
    | none => .error (.valueError s!"{name} must be an ISO timestamp")
    | some ⟨_, none⟩ => .error (.valueError s!"{name} must be timezone-aware")
    | some ⟨moment, some offset⟩ => match astimezoneUtc moment offset with
      | none => .error (.other "OverflowError")
      | some utc => .ok (isoformat utc)

end Macr
