import Fulfilment.Text.Basic
import Fulfilment.Number.Numeral

/-!
# Timestamps

A point in time as a calendar date with a time of day and, unless it is local, an offset from UTC.
Timestamps are written in the form of ISO 8601 with a fraction only when there is one. They are
read from that form, from a date alone, and from seconds or milliseconds since 1970.

## Main definitions

* `Timestamp` - a calendar date with a time of day and an optional offset
* `Timestamp.iso` - the written form
* `Timestamp.Defect` - why a text or a number is no timestamp
* `Timestamp.ofText`, `Timestamp.ofUnix` - the readers

## Main results

* `Timestamp.withoutOffset_idem` - the offset is dropped once and for all
-/

namespace Fulfilment

/-- A calendar date with a time of day. -/
structure Timestamp where
  /-- The year. -/
  year : Nat
  /-- The month, from one. -/
  month : Nat
  /-- The day of the month, from one. -/
  day : Nat
  /-- The hour. -/
  hour : Nat
  /-- The minute. -/
  minute : Nat
  /-- The second. -/
  second : Nat
  /-- The microsecond. -/
  microsecond : Nat
  /-- The microseconds that local time is ahead of UTC; `none` when the offset is unknown. -/
  offset : Option Int
deriving DecidableEq, Repr, Inhabited

namespace Timestamp

/-- Why a text or a number is no timestamp. -/
inductive Defect where
  /-- The text ends too early. -/
  | tooShort
  /-- The text goes on after its end. -/
  | extraCharacters
  /-- The parts of the date are not separated by hyphens. -/
  | dateSeparator
  /-- The year is not written in digits. -/
  | year
  /-- The month is not written in digits. -/
  | month
  /-- The day is not written in digits. -/
  | day
  /-- There is no such month. -/
  | monthRange
  /-- The month has no such day. -/
  | dayRange
  /-- The time of day is not well formed. -/
  | time
  /-- The calendar begins with the year one. -/
  | yearZero
  /-- The seconds reach back before the year zero. -/
  | tooEarly
  /-- The seconds reach beyond 9999. -/
  | tooLate
  /-- The seconds are not a number. -/
  | notANumber
deriving DecidableEq, Repr

/-- The description of a defect. -/
def Defect.message : Defect → String
  | .tooShort => "input is too short"
  | .extraCharacters => "unexpected extra characters at the end of the input"
  | .dateSeparator => "invalid date separator, expected `-`"
  | .year => "invalid character in year"
  | .month => "invalid character in month"
  | .day => "invalid character in day"
  | .monthRange => "month value is outside expected range of 1-12"
  | .dayRange => "day value is outside expected range"
  | .time => "invalid time"
  | .yearZero => "year 0 is out of range"
  | .tooEarly => "dates before 0000 are not supported as unix timestamps"
  | .tooLate => "dates after 9999 are not supported as unix timestamps"
  | .notANumber => "NaN values not permitted"

/-- A fraction of a second in six digits after a point, if there is one. -/
def fractionText (microseconds : Nat) : String :=
  if microseconds = 0 then "" else "." ++ Text.decimal 6 microseconds

/-- The offset from UTC in hours and minutes, with seconds and their fraction only if there are
any. -/
def offsetText (offset : Int) : String :=
  let micros := offset.natAbs % 1000000
  let n := offset.natAbs / 1000000
  (if offset < 0 then "-" else "+") ++ Text.decimal 2 (n / 3600) ++ ":" ++
    Text.decimal 2 (n / 60 % 60) ++
    (if n % 60 = 0 ∧ micros = 0 then "" else ":" ++ Text.decimal 2 (n % 60)) ++
    fractionText micros

/-- The written form. -/
def iso (t : Timestamp) : String :=
  Text.decimal 4 t.year ++ "-" ++ Text.decimal 2 t.month ++ "-" ++ Text.decimal 2 t.day ++ "T" ++
    Text.decimal 2 t.hour ++ ":" ++ Text.decimal 2 t.minute ++ ":" ++ Text.decimal 2 t.second ++
    fractionText t.microsecond ++
    (match t.offset with
      | none => ""
      | some o => offsetText o)

/-- The same calendar date and time of day, as local time. -/
def withoutOffset (t : Timestamp) : Timestamp := { t with offset := none }

@[simp] theorem withoutOffset_idem (t : Timestamp) :
    t.withoutOffset.withoutOffset = t.withoutOffset := rfl

/-- The order of two calendar dates and times of day, from the year to the microsecond. -/
def compareLocal (a b : Timestamp) : Ordering :=
  (compare a.year b.year).then <| (compare a.month b.month).then <| (compare a.day b.day).then <|
    (compare a.hour b.hour).then <| (compare a.minute b.minute).then <|
    (compare a.second b.second).then <| compare a.microsecond b.microsecond

/-- Whether one calendar date and time of day is not after another. -/
def localLe (a b : Timestamp) : Bool := (compareLocal a b).isLE

/-- Whether the year has a 29th of February. -/
def isLeapYear (year : Nat) : Bool := year % 4 = 0 && (year % 100 ≠ 0 || year % 400 = 0)

/-- The number of days of a month; there is none outside the months of a year. -/
def daysInMonth (year month : Nat) : Nat :=
  if month = 2 then (if isLeapYear year then 29 else 28)
  else if month = 4 ∨ month = 6 ∨ month = 9 ∨ month = 11 then 30
  else if 1 ≤ month ∧ month ≤ 12 then 31
  else 0

/-- The bytes of a text, each as the character of that code point. Positions in a written timestamp
are counted in bytes. -/
def bytes (s : String) : List Char := s.toUTF8.toList.map fun b => Char.ofNat b.toNat

/-- The value of an ASCII digit. -/
def digitAt? (cs : List Char) (i : Nat) : Option Nat :=
  (cs[i]?).bind Numeral.Style.plain.digit?

/-- The number that `n` digits from position `i` write. -/
def numberAt? (cs : List Char) (i n : Nat) : Option Nat :=
  ((List.range n).mapM fun k => digitAt? cs (i + k)).map Text.ofDigits

/-- The date at the front of a text, at midnight of local time. -/
def dateAt (cs : List Char) : Except Defect Timestamp := do
  if cs.length < 10 then throw .tooShort
  let some year := numberAt? cs 0 4 | throw .year
  if cs[4]? ≠ some '-' then throw .dateSeparator
  let some month := numberAt? cs 5 2 | throw .month
  if cs[7]? ≠ some '-' then throw .dateSeparator
  let some day := numberAt? cs 8 2 | throw .day
  -- The parts are held against the calendar once all of them have been read.
  if month < 1 ∨ 12 < month then throw .monthRange
  if day < 1 ∨ daysInMonth year month < day then throw .dayRange
  return ⟨year, month, day, 0, 0, 0, 0, none⟩

/-- The sign of an offset at the front of a text, and what follows it. The minus sign may be the one
of mathematics, in its three bytes. -/
def offsetSign? : List Char → Option (Bool × List Char)
  | '+' :: cs => some (false, cs)
  | '-' :: cs => some (true, cs)
  | '\u00e2' :: '\u0088' :: '\u0092' :: cs => some (true, cs)
  | _ => none

/-- The offset from UTC that makes up the rest of a text. -/
def offset? (cs : List Char) : Option (Option Int) :=
  match cs with
  | [] => some none
  | ['Z'] | ['z'] => some (some 0)
  | cs => do
    let (negative, cs) ← offsetSign? cs
    let hours ← numberAt? cs 0 2
    let rest := if cs[2]? = some ':' then cs.drop 3 else cs.drop 2
    let minutes ← numberAt? rest 0 2
    let seconds : Int := hours * 3600 + minutes * 60
    if rest.length ≠ 2 ∨ 59 < minutes ∨ 86400 ≤ seconds then none
    else some (some ((if negative then -seconds else seconds) * 1000000))

/-- The microseconds that the digits after the point write. Digits after the sixth are dropped. -/
def fraction (ds : List Nat) : Nat := Text.ofDigits ((ds ++ List.replicate 6 0).take 6)

/-- The time of day and offset that make up the rest of a text, on the given date. -/
def timeOf? (date : Timestamp) (cs : List Char) : Option Timestamp := do
  let hour ← numberAt? cs 0 2
  let minute ← numberAt? cs 3 2
  if cs[2]? ≠ some ':' ∨ 23 < hour ∨ 59 < minute then none
  let t := { date with hour := hour, minute := minute }
  if cs[5]? = some ':' then
    let second ← numberAt? cs 6 2
    if 59 < second then none
    let t := { t with second := second }
    let rest := cs.drop 8
    if rest[0]? = some '.' ∨ rest[0]? = some ',' then
      let (ds, rest) := Numeral.Style.plain.digits (rest.drop 1)
      if ds.isEmpty then none
      return { t with microsecond := fraction ds, offset := ← offset? rest }
    else return { t with offset := ← offset? rest }
  else return { t with offset := ← offset? (cs.drop 5) }

/-- A date and a time of day, parted by a letter, a blank or an underscore. -/
def dateTime (cs : List Char) : Except Defect Timestamp := do
  let date ← dateAt cs
  match cs[10]? with
  | some c =>
    if c = 'T' ∨ c = 't' ∨ c = ' ' ∨ c = '_' then
      match timeOf? date (cs.drop 11) with
      | some t => return t
      | none => throw .time
    else throw .time
  | none => throw .tooShort

/-- A date alone. -/
def dateOnly (cs : List Char) : Except Defect Timestamp := do
  let date ← dateAt cs
  if 10 < cs.length then throw .extraCharacters
  return date

/-- The calendar date that lies `days` days after the first of January 1970. The calendar repeats
every 146097 days, and the years are counted from March. -/
def civil (days : Int) : Nat × Nat × Nat :=
  -- Counted from the first of March of the year zero, leap days come last in their years.
  let z := days + 719468
  let era := z / 146097
  let doe := (z % 146097).toNat
  let yoe := (doe - doe / 1460 + doe / 36524 - doe / 146096) / 365
  let doy := doe - (365 * yoe + yoe / 4 - yoe / 100)
  let mp := (5 * doy + 2) / 153
  let day := doy - (153 * mp + 2) / 5 + 1
  let month := if mp < 10 then mp + 3 else mp - 9
  let year := (yoe : Int) + era * 400 + (if month ≤ 2 then 1 else 0)
  (year.toNat, month, day)

/-- A point in time in a year of the calendar. -/
def inCalendar (t : Timestamp) : Except Defect Timestamp :=
  if t.year = 0 then .error .yearZero else .ok t

/-- The point in time that lies so many seconds and microseconds after the start of 1970 in UTC. -/
def ofSeconds (seconds : Int) (microseconds : Nat) : Except Defect Timestamp := do
  let seconds := seconds + (microseconds / 1000000 : Nat)
  if seconds < -62167219200 then throw .tooEarly
  if 253402300799 < seconds then throw .tooLate
  let (year, month, day) := civil (seconds / 86400)
  let s := (seconds % 86400).toNat
  inCalendar ⟨year, month, day, s / 3600, s / 60 % 60, s % 60, microseconds % 1000000, some 0⟩

/-- The point in time that lies so many milliseconds and microseconds after the start of 1970 in
UTC. -/
def ofMillis (millis : Int) (microseconds : Nat) : Except Defect Timestamp :=
  ofSeconds (millis / 1000) ((millis % 1000).toNat * 1000 + microseconds)

/-- The number of seconds above which a count is taken as milliseconds. So many seconds reach to the
year 2603. -/
def mostSeconds : Nat := 20000000000

/-- The point in time that lies a whole number of seconds, or of milliseconds, after the start of
1970 in UTC. -/
def ofUnix (count : Int) : Except Defect Timestamp :=
  if mostSeconds < count.natAbs then ofMillis count 0 else ofSeconds count 0

/-- A number rounded to the nearest integer, and away from zero in the middle between two. A number
that is not finite or below zero counts as zero. -/
def rounded : Binary64 → Nat
  | .finite false u => (2 * u + Binary64.unitsOfOne) / (2 * Binary64.unitsOfOne)
  | _ => 0

/-- The point in time that lies a number of seconds, or of milliseconds, after the start of 1970 in
UTC. What lies above the whole number below is rounded to microseconds. -/
def ofUnixReal (x : Binary64) : Except Defect Timestamp :=
  match x.floor? with
  | none => .error (if x = .nan then .notANumber else if x < .zero then .tooEarly else .tooLate)
  | some whole =>
    let rest := x.add (.ofInt (-whole))
    if Binary64.intLt mostSeconds x.abs then ofMillis whole (rounded (rest.mul (.ofInt 1000)))
    else ofSeconds whole (rounded (rest.mul (.ofInt 1000000)))

/-- The number of seconds that a text writes: digits with an optional sign, or a number with a
point, before which there is no more than a whole number of 64 binary digits. -/
def writtenSeconds? (cs : List Char) : Option (Int ⊕ Binary64) :=
  let (negative, cs) := Numeral.sign cs
  match Numeral.Style.plain.digits cs with
  | (whole, '.' :: _) =>
    if isWord (Text.ofDigits whole) then
      (Numeral.Style.plain.unsigned? negative cs).map fun n => .inr (.ofNumeral n)
    else none
  | (d :: ds, []) =>
    let n : Int := Text.ofDigits (d :: ds)
    let n := if negative then -n else n
    if isWord n then some (.inl n) else none
  | _ => none

/-- A timestamp as a text: a date and time, a number of seconds, or a date alone. The defect is that
of the date, unless a whole number of seconds leads out of the calendar. -/
def ofText (s : String) : Except Defect Timestamp :=
  let cs := bytes s
  let date := (dateOnly cs).bind inCalendar
  match dateTime cs with
  | .ok t => inCalendar t
  | .error _ =>
    match writtenSeconds? cs with
    | some (.inl n) => ofUnix n
    | some (.inr x) =>
      match ofUnixReal x with
      | .error .yearZero => .error .yearZero
      | .error _ => date
      | .ok t => .ok t
    | none => date

end Timestamp

end Fulfilment
