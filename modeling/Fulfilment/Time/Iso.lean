import Fulfilment.Text.Quoted
import Fulfilment.Time.Timestamp

/-!
# Timestamps in the formats of ISO 8601

The generous reader of timestamps: a date in the calendar or by its week, with or without hyphens,
and after any one character a time of day, with or without colons, which may have a fraction and an
offset. Positions in the time of day are counted in bytes.

## Main definitions

* `Timestamp.IsoDefect` - why a text is no timestamp in these formats
* `Timestamp.dateLength` - where the date ends, which its first characters tell
* `Timestamp.ofIso` - the reader
-/

namespace Fulfilment.Timestamp

/-- Why a text is no timestamp in the formats of ISO 8601. -/
inductive IsoDefect where
  /-- The text does not have one of the formats. -/
  | form
  /-- The offset is not less than a day. -/
  | offset (microseconds : Int)
  /-- The year is beyond the calendar. -/
  | year (year : Nat)
  /-- There is no such month. -/
  | month
  /-- The month has no such day. -/
  | day
  /-- There is no such hour. -/
  | hour
  /-- There is no such minute. -/
  | minute
  /-- There is no such second. -/
  | second
deriving DecidableEq, Repr

/-- The microseconds of a day. -/
def microsOfDay : Int := 86400000000

/-- A span of time in days, seconds and microseconds, of which only the days may be negative. -/
def spanText (microseconds : Int) : String :=
  let days := microseconds / microsOfDay
  let rest := (microseconds % microsOfDay).toNat
  let parts : List (String × Int) :=
    [("days", days), ("seconds", rest / 1000000), ("microseconds", rest % 1000000)]
  let shown := (parts.filter (·.2 ≠ 0)).map fun p => p.1 ++ "=" ++ toString p.2
  "datetime.timedelta(" ++ (if shown.isEmpty then "0" else String.intercalate ", " shown) ++ ")"

/-- The description of a defect of a text. -/
def IsoDefect.message (text : String) : IsoDefect → String
  | .form => "Invalid isoformat string: " ++ Text.quote text
  | .offset microseconds =>
    "offset must be a timedelta strictly between -timedelta(hours=24) and " ++
      "timedelta(hours=24), not " ++ spanText microseconds ++ "."
  | .year y => "year " ++ toString y ++ " is out of range"
  | .month => "month must be in 1..12"
  | .day => "day is out of range for month"
  | .hour => "hour must be in 0..23"
  | .minute => "minute must be in 0..59"
  | .second => "second must be in 0..59"

/-! ### Dates -/

/-- Where the date ends in a text that begins with one. A week may be followed by a hyphen and a
day, or by a hyphen in front of the time of day, which two digits after it tell. -/
def dateLength (cs : List Char) : Nat :=
  let digitAt (i : Nat) : Bool := (digitAt? cs i).isSome
  if cs.length = 7 then 7
  else if cs[4]? = some '-' then
    if cs[5]? = some 'W' then if cs[8]? = some '-' && !digitAt 10 then 10 else 8 else 10
  else if cs[4]? = some 'W' then
    -- The digits of a time of day come in pairs, so their number tells whether a day is among them.
    let stop := 7 + ((cs.drop 7).takeWhile Text.isAsciiDigit).length
    if stop < 9 then stop else if stop % 2 = 0 then 7 else 8
  else 8

/-- The days from the start of the calendar to the first of January of a year. -/
def daysBefore (year : Nat) : Nat :=
  let y := year - 1
  365 * y + y / 4 - y / 100 + y / 400

/-- The weekday of the first of January of a year; zero is Monday. -/
def firstWeekday (year : Nat) : Nat := daysBefore year % 7

/-- Whether a year has a week of this number. A year that begins with a Thursday, or a leap year
that begins with a Wednesday, has 53. -/
def hasWeek (year week : Nat) : Bool :=
  (1 ≤ week && week < 53) ||
    (week = 53 && year ≠ 0 &&
      (firstWeekday year = 3 || (firstWeekday year = 2 && isLeapYear year)))

/-- The year, month and day of a day of a week. The first week of a year is the one with its first
Thursday. -/
def ofWeek (year week day : Nat) : Except IsoDefect (Nat × Nat × Nat) :=
  if !hasWeek year week || day < 1 || 7 < day then .error .form
  -- Before the calendar begins, the days of a week have no month.
  else if year = 0 then .ok (1, 0, 0)
  else
    let start : Int := daysBefore year - firstWeekday year
    let monday := if 3 < firstWeekday year then start + 7 else start
    .ok (civil (monday + (week - 1 : Nat) * 7 + (day - 1 : Nat) - 719162))

/-- The year, month and day that a date writes. -/
def isoDate (cs : List Char) : Except IsoDefect (Nat × Nat × Nat) :=
  let number (i n : Nat) : Except IsoDefect Nat :=
    match numberAt? cs i n with
    | some k => .ok k
    | none => .error .form
  match cs.drop 4 with
  | ['-', 'W', _, _] => do ofWeek (← number 0 4) (← number 6 2) 1
  | ['-', 'W', _, _, '-', _] => do ofWeek (← number 0 4) (← number 6 2) (← number 9 1)
  | ['W', _, _] => do ofWeek (← number 0 4) (← number 5 2) 1
  | ['W', _, _, _] => do ofWeek (← number 0 4) (← number 5 2) (← number 7 1)
  | ['-', _, _, '-', _, _] => do return (← number 0 4, ← number 5 2, ← number 8 2)
  | [_, _, _, _] => do return (← number 0 4, ← number 4 2, ← number 6 2)
  | _ => .error .form

/-! ### Times of day -/

/-- What is written between a date and an offset, or in an offset. -/
structure Clock where
  /-- The hours, minutes and seconds, as far as they are written. -/
  fields : List Nat
  /-- The microseconds. -/
  microsecond : Nat
  /-- Whether nothing follows. -/
  isComplete : Bool

/-- Whether a text is at its end, which a null character marks as well. -/
def atEnd : List Char → Bool
  | [] => true
  | c :: _ => c = '\x00'

/-- A fraction of a second at the front of a text that goes on with others. Digits after the sixth
are dropped. -/
def isoFraction? (cs rest : List Char) : Option Clock := do
  let ds ← (cs.take 6).mapM Numeral.Style.plain.digit?
  let after := (cs.drop 6).dropWhile Text.isAsciiDigit
  return ⟨[], fraction ds, atEnd (after ++ rest)⟩

/-- Up to so many further fields of two digits, and a fraction, at the front of a text that goes on
with others. The first field tells whether colons stand between the fields. -/
def clock? (rest : List Char) : (separated : Option Bool) → Nat → List Char → Option Clock
  | _, 0, cs => isoFraction? cs rest
  | separated, n + 1, cs => do
    let field ← numberAt? cs 0 2
    match cs.drop 2 with
    | [] => return ⟨[field], 0, atEnd rest⟩
    | [c] => return ⟨[field], 0, c = '\x00'⟩
    | c :: cs =>
      let colons := separated.getD (c = ':')
      let clock ←
        if colons ∧ c = ':' then clock? rest (some colons) n cs
        else if c = '.' ∨ c = ',' then isoFraction? cs rest
        else if colons then none
        else clock? rest (some colons) n (c :: cs)
      return { clock with fields := field :: clock.fields }

/-- The microseconds that an offset of hours, minutes and seconds is ahead of UTC. An offset of less
than a second is none. -/
def isoOffset (negative : Bool) (c : Clock) : Int :=
  let seconds := c.fields.getD 0 0 * 3600 + c.fields.getD 1 0 * 60 + c.fields.getD 2 0
  let micros : Int := if seconds = 0 then 0 else seconds * 1000000 + c.microsecond
  if negative then -micros else micros

/-- A time of day with an offset, if there is one. -/
def isoTime? (cs : List Char) : Option (Clock × Option Int) := do
  let isSign (c : Char) : Bool := c = '+' || c = '-' || c = 'Z'
  let rest := cs.dropWhile fun c => !isSign c
  let clock ← clock? rest none 3 (cs.takeWhile fun c => !isSign c)
  match rest with
  | [] => if clock.isComplete then return (clock, none) else none
  | 'Z' :: after => if atEnd after then return (clock, some 0) else none
  | sign :: after =>
    let offset ← clock? [] none 3 after
    if offset.isComplete then return (clock, some (isoOffset (sign = '-') offset)) else none

/-- A date with a time of day, if the offset, the date and the time are those of the calendar. -/
def onCalendar (date : Nat × Nat × Nat) (time : Clock × Option Int) :
    Except IsoDefect Timestamp := do
  let (year, month, day) := date
  let (clock, offset) := time
  let hour := clock.fields.getD 0 0
  let minute := clock.fields.getD 1 0
  let second := clock.fields.getD 2 0
  if let some o := offset then
    if o ≤ -microsOfDay ∨ microsOfDay ≤ o then throw (.offset o)
  if year < 1 ∨ 9999 < year then throw (.year year)
  if month < 1 ∨ 12 < month then throw .month
  if day < 1 ∨ daysInMonth year month < day then throw .day
  if 23 < hour then throw .hour
  if 59 < minute then throw .minute
  if 59 < second then throw .second
  return ⟨year, month, day, hour, minute, second, clock.microsecond, offset⟩

/-- The timestamp that a text writes in one of the formats of ISO 8601. -/
def ofIso (s : String) : Except IsoDefect Timestamp := do
  let cs := s.toList
  if cs.length < 7 then throw .form
  let date ← isoDate (cs.take (dateLength cs))
  match cs.drop (dateLength cs) with
  | [] => onCalendar date (⟨[], 0, true⟩, none)
  | _ :: time =>
    match isoTime? (bytes (String.ofList time)) with
    | some time => onCalendar date time
    | none => throw .form

end Fulfilment.Timestamp
