import Gamebook.Text.Digit

/-! Days and moments of the calendar, as plain scalars write them. -/

namespace Gamebook.Yaml

/-- A day of the calendar. -/
structure Day where
  year : Nat
  month : Nat
  day : Nat
  deriving DecidableEq, Repr

/-- A time of a day, perhaps with the minutes by which the clock is ahead of universal time. -/
structure Moment where
  day : Day
  hour : Nat
  minute : Nat
  second : Nat
  microsecond : Nat
  offset : Option Int
  deriving DecidableEq, Repr

/-- Why numbers are no day or moment. -/
inductive CalendarFault where
  | yearOutside (year : Nat)
  | monthOutside
  | dayOutside
  | hourOutside
  | minuteOutside
  | secondOutside
  | offsetOutside (minutes : Int)
  | pastEnd
  deriving DecidableEq, Repr

/-- Two digits at least. -/
def twoDigits (value : Nat) : String := if value < 10 then s!"0{value}" else toString value

/-- A span of minutes as days and seconds, where only the days may be negative. -/
def spanShown (minutes : Int) : String :=
  let days := Int.fdiv minutes 1440
  let seconds := Int.fmod minutes 1440 * 60
  let parts := (if days = 0 then [] else [s!"days={days}"])
    ++ (if seconds = 0 then [] else [s!"seconds={seconds}"])
  "datetime.timedelta(" ++ (if parts.isEmpty then "0" else String.intercalate ", " parts) ++ ")"

/-- A fault in words. -/
def CalendarFault.message : CalendarFault → String
  | yearOutside year => s!"year {year} is out of range"
  | monthOutside => "month must be in 1..12"
  | dayOutside => "day is out of range for month"
  | hourOutside => "hour must be in 0..23"
  | minuteOutside => "minute must be in 0..59"
  | secondOutside => "second must be in 0..59"
  | offsetOutside minutes =>
    "offset must be a timedelta strictly between -timedelta(hours=24) and timedelta(hours=24), not "
      ++ spanShown minutes ++ "."
  | pastEnd => "date value out of range"

/-- Whether a year has a leap day. -/
def isLeap (year : Nat) : Bool := year % 4 == 0 && (year % 100 != 0 || year % 400 == 0)

/-- The lengths of the months of a year. -/
def monthLengths (year : Nat) : List Nat :=
  [31, if isLeap year then 29 else 28, 31, 30, 31, 30, 31, 31, 30, 31, 30, 31]

/-- The greatest year. -/
def lastYear : Nat := 9999

namespace Day

/-- The number of days in the month of a day. -/
def monthLength (day : Day) : Nat := ((monthLengths day.year)[day.month - 1]?).getD 0

/-- A day that exists. -/
def checked (day : Day) : Except CalendarFault Day :=
  if day.year = 0 ∨ lastYear < day.year then .error (.yearOutside day.year)
  else if day.month = 0 ∨ 12 < day.month then .error .monthOutside
  else if day.day = 0 ∨ day.monthLength < day.day then .error .dayOutside
  else .ok day

/-- The day after a day. -/
def next (day : Day) : Day :=
  if day.day < day.monthLength then { day with day := day.day + 1 }
  else if day.month < 12 then { day with month := day.month + 1, day := 1 }
  else ⟨day.year + 1, 1, 1⟩

/-- The number of days before a day, from the first day of the first year on. -/
def number (day : Day) : Nat :=
  let years := day.year - 1
  years * 365 + years / 4 - years / 100 + years / 400
    + ((monthLengths day.year).take (day.month - 1)).foldl (· + ·) 0 + day.day - 1

/-- A day as plain text. -/
def plain (day : Day) : String :=
  let year := toString day.year
  String.ofList (List.replicate (4 - year.length) '0') ++ year
    ++ "-" ++ twoDigits day.month ++ "-" ++ twoDigits day.day

/-- A day inside a message. -/
def shown (day : Day) : String := s!"datetime.date({day.year}, {day.month}, {day.day})"

end Day

namespace Moment

/-- A moment that exists. -/
def checked (moment : Moment) : Except CalendarFault Moment := do
  match moment.offset with
  | some minutes => if 1440 ≤ minutes.natAbs then throw (.offsetOutside minutes)
  | none => pure ()
  let _ ← moment.day.checked
  if 23 < moment.hour then throw .hourOutside
  if 59 < moment.minute then throw .minuteOutside
  if 59 < moment.second then throw .secondOutside
  return moment

/-- The moment a second later. -/
def nextSecond (moment : Moment) : Moment :=
  if moment.second < 59 then { moment with second := moment.second + 1 }
  else if moment.minute < 59 then { moment with minute := moment.minute + 1, second := 0 }
  else if moment.hour < 23 then { moment with hour := moment.hour + 1, minute := 0, second := 0 }
  else { moment with day := moment.day.next, hour := 0, minute := 0, second := 0 }

/-- A moment as the microseconds from the first day on, by its own clock or, where that is known, in
universal time. -/
def instant (moment : Moment) : Int :=
  let minutes : Int := (moment.day.number * 24 + moment.hour) * 60 + moment.minute
  ((minutes - moment.offset.getD 0) * 60 + moment.second) * 1000000 + moment.microsecond

/-- Whether two moments are the same. -/
def same (a b : Moment) : Bool := a.offset.isSome == b.offset.isSome && a.instant == b.instant

/-- Six digits at least. -/
def sixDigits (value : Nat) : String :=
  let digits := toString value
  String.ofList (List.replicate (6 - digits.length) '0') ++ digits

/-- A moment as plain text. -/
def plain (moment : Moment) : String :=
  let fraction := if moment.microsecond = 0 then "" else "." ++ sixDigits moment.microsecond
  let zone := match moment.offset with
    | none => ""
    | some minutes =>
      (if minutes < 0 then "-" else "+") ++ twoDigits (minutes.natAbs / 60) ++ ":"
        ++ twoDigits (minutes.natAbs % 60)
  moment.day.plain ++ " " ++ twoDigits moment.hour ++ ":" ++ twoDigits moment.minute ++ ":"
    ++ twoDigits moment.second ++ fraction ++ zone

/-- A zone inside a message. -/
def zoneShown (minutes : Int) : String :=
  if minutes = 0 then "datetime.timezone.utc"
  else "datetime.timezone(" ++ spanShown minutes ++ ")"

/-- A moment inside a message; zeros at the end are left out. -/
def shown (moment : Moment) : String :=
  let minutes := [moment.day.year, moment.day.month, moment.day.day, moment.hour, moment.minute]
  let rest :=
    if moment.microsecond ≠ 0 then [moment.second, moment.microsecond]
    else if moment.second ≠ 0 then [moment.second]
    else []
  let zone := match moment.offset with
    | none => []
    | some minutes => ["tzinfo=" ++ zoneShown minutes]
  "datetime.datetime(" ++ String.intercalate ", " ((minutes ++ rest).map toString ++ zone) ++ ")"

end Moment

/-- The number in the digits at the start of a text, of which there must be some. -/
def leadingNumber? (least most : Nat) (input : List Char) : Option (Nat × List Char) :=
  let digits := (input.take most).takeWhile Char.isDigit
  if digits.length < least then none
  else some (Text.ofDigits 10 (digits.filterMap Text.asciiDigit?), input.drop digits.length)

/-- The text after an expected character. -/
def after? (c : Char) : List Char → Option (List Char)
  | [] => none
  | first :: rest => if first = c then some rest else none

/-- A year, a month and a day with dashes between them. -/
def writtenDay? (least : Nat) (input : List Char) : Option (Day × List Char) := do
  let (year, rest) ← leadingNumber? 4 4 input
  let (month, rest) ← leadingNumber? least 2 (← after? '-' rest)
  let (day, rest) ← leadingNumber? least 2 (← after? '-' rest)
  return (⟨year, month, day⟩, rest)

/-- Whether a character may stand between the parts of a moment. -/
def isGap (c : Char) : Bool := c == ' ' || c == '\t'

/-- What stands between a day and a time: a letter, or spaces. -/
def afterDay? (input : List Char) : Option (List Char) :=
  match input with
  | [] => none
  | c :: rest =>
    if c = 'T' ∨ c = 't' then some rest
    else if isGap c then some (rest.dropWhile isGap)
    else none

/-- The rest of a moment: nothing, or its offset from universal time. -/
def writtenOffset? (input : List Char) : Option (Option Int) :=
  match input.dropWhile isGap with
  | [] => if input.isEmpty then some none else none
  | ['Z'] => some (some 0)
  | sign :: rest =>
    if sign = '+' ∨ sign = '-' then do
      let (hours, rest) ← leadingNumber? 1 2 rest
      let minutes ← match rest with
        | [] => pure 0
        | rest => do
          let (minutes, rest) ← leadingNumber? 2 2 (← after? ':' rest)
          if rest.isEmpty then pure minutes else none
      let offset : Int := hours * 60 + minutes
      return some (if sign = '-' then -offset else offset)
    else none

/-- A fraction of a second in microseconds, the seventh digit rounding the sixth. -/
def microseconds (digits : List Char) : Nat :=
  let values := digits.filterMap Text.asciiDigit?
  let padded := (values ++ List.replicate 6 0).take 6
  let up := match values[6]? with
    | some digit => if 4 < digit then 1 else 0
    | none => 0
  Text.ofDigits 10 padded + up

/-- A moment as written, before it is checked; a whole second in its fraction is not carried. -/
def writtenMoment? (input : List Char) : Option Moment := do
  let (day, rest) ← writtenDay? 1 input
  let (hour, rest) ← leadingNumber? 1 2 (← afterDay? rest)
  let (minute, rest) ← leadingNumber? 2 2 (← after? ':' rest)
  let (second, rest) ← leadingNumber? 2 2 (← after? ':' rest)
  let (fraction, rest) := match rest with
    | '.' :: rest => rest.span Char.isDigit
    | rest => ([], rest)
  let offset ← writtenOffset? rest
  return ⟨day, hour, minute, second, microseconds fraction, offset⟩

/-- A moment whose fraction may be a whole second. -/
def carried (moment : Moment) : Except CalendarFault Moment :=
  if moment.microsecond < 1000000 then moment.checked
  else do
    let next := ({ moment with microsecond := 0 } : Moment)
    let next := (← next.checked).nextSecond
    if lastYear < next.day.year then throw .pastEnd
    return next

/-- A day or a moment. -/
inductive Timestamp where
  | day (value : Day)
  | moment (value : Moment)
  deriving DecidableEq, Repr

namespace Timestamp

/-- A timestamp as plain text. -/
def plain : Timestamp → String
  | day value => value.plain
  | moment value => value.plain

/-- A timestamp inside a message. -/
def shown : Timestamp → String
  | day value => value.shown
  | moment value => value.shown

/-- Whether two timestamps are the same. -/
def same : Timestamp → Timestamp → Bool
  | day a, day b => a == b
  | moment a, moment b => a.same b
  | _, _ => false

/-- The timestamp that a text writes, if it is written like one. -/
def read? (input : List Char) : Option (Except CalendarFault Timestamp) :=
  match writtenDay? 2 input with
  | some (value, []) => some (value.checked.map day)
  | _ => (writtenMoment? input).map fun value => (carried value).map moment

end Timestamp

end Gamebook.Yaml
