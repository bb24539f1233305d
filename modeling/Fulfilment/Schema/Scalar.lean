import Fulfilment.Document.Value
import Fulfilment.Number.Numeral
import Fulfilment.Schema.Checked

/-!
# Checking single values

The checks of values that hold no other values. Texts have to be texts. Numbers, truth values and
points in time are also taken from texts that write them and from numbers of another kind, as long
as nothing is lost.

## Main definitions

* `Schema.text`, `Schema.nonEmptyText`, `Schema.choice` - texts
* `Schema.integer`, `Schema.number`, `Schema.boolean`, `Schema.timestamp` - the other kinds
* `Schema.above`, `Schema.atLeast` - bounds
-/

namespace Fulfilment.Schema

open Checked

/-- A text. -/
def text : Value → Checked String
  | .text s => .accepted s
  | _ => refuse .notText

/-- A text of at least one character. -/
def nonEmptyText (v : Value) : Checked String :=
  (text v).andThen fun s => if s = "" then refuse .emptyText else .accepted s

/-- One of a list of words, as the thing it stands for. -/
def choice {α : Type} (words : List (String × α)) (v : Value) : Checked α :=
  match v.text?.bind (Catalog.get? words) with
  | some a => .accepted a
  | none => refuse (.notChoice (words.map (·.1)))

/-- A member of an enumeration, as the thing it stands for. -/
def member {α : Type} (words : List (String × α)) (v : Value) : Checked α :=
  match v.text?.bind (Catalog.get? words) with
  | some a => .accepted a
  | none => refuse (.notMember (words.map (·.1)))

/-- The value, or none for null. -/
def nullable {α : Type} (check : Value → Checked α) : Value → Checked (Option α)
  | .null => .accepted none
  | v => some <$> check v

/-- The integer that a text writes in plain form, in the digits of ASCII: a minus sign is the only
sign, and a zero is the first digit only if it is the only one. There may be 4300 digits; more of
them are too many, whatever follows. -/
def plainInteger (cs : List Char) : Except Defect Int :=
  let (negative, ds) :=
    match cs with
    | '-' :: cs => (true, cs)
    | cs => (false, cs)
  match Numeral.Style.plain.digits ds with
  | ([], _) | (0 :: _ :: _, _) => .error .unreadableInteger
  | (digits, rest) =>
    if 4300 < digits.length then .error .oversizedInteger
    else if !rest.isEmpty then .error .unreadableInteger
    else
      let n : Int := Text.ofDigits digits
      .ok (if negative then -n else n)

/-- The characters without leading zeros and the underscores between them. What is left begins with
a digit or a minus sign; the last of the zeros is left before a point and at the end. -/
def dropLeadingZeros : List Char → Option (List Char)
  | '0' :: cs => rest '0' cs
  | c :: cs => if c = '-' ∨ Text.isAsciiDigit c then some (c :: cs) else none
  | [] => none
where
  /-- What is left of the characters after a zero and others of its kind. -/
  rest (last : Char) : List Char → Option (List Char)
    | [] => some [last]
    | c :: cs =>
      if c = '0' ∨ c = '_' then rest c cs
      else if c = '.' then some (last :: c :: cs)
      else if c = '-' ∨ Text.isAsciiDigit c then some (c :: cs)
      else none

/-- The characters before the point, if only zeros follow it, and at least one. -/
def dropZeroFraction (cs : List Char) : List Char :=
  match cs.dropWhile (· != '.') with
  | _ :: z :: zeros =>
    if (z :: zeros).all (· == '0') then cs.takeWhile (· != '.') else cs
  | _ => cs

/-- The characters without underscores, unless two of them stand together or one stands at either
end. -/
def dropUnderscores (cs : List Char) : List Char :=
  if cs.head? == some '_' || cs.getLast? == some '_' || Text.occurs ['_', '_'] cs then cs
  else cs.filter (· != '_')

/-- The plain form of a text without a sign, of which leading zeros, a fraction of zeros and single
underscores between the digits are no part. -/
def plainDigits? (cs : List Char) : Option (List Char) :=
  (dropLeadingZeros cs).map fun cs => dropUnderscores (dropZeroFraction cs)

/-- The plain form of a text, of which white space around it and a plus sign are no part either.
Only one sign may stand in front. -/
def plainForm? (s : String) : Option (List Char) :=
  match Text.strip Text.isSpace s.toList with
  | '-' :: cs => (plainDigits? cs).map ('-' :: ·)
  | '+' :: '-' :: _ => none
  | '+' :: cs => plainDigits? cs
  | cs => plainDigits? cs

/-- The integer that a text writes. Only a text that is in plain form itself can have too many
digits. -/
def integerOfText (s : String) : Checked Int :=
  match plainInteger s.toList with
  | .ok n => .accepted n
  | .error .oversizedInteger => refuse .oversizedInteger
  | .error _ =>
    match (plainForm? s).map plainInteger with
    | some (.ok n) => .accepted n
    | _ => refuse .unreadableInteger

/-- An integer, from a number without a fraction, a truth value, or a text. -/
def integer : Value → Checked Int
  | .int n => .accepted n
  | .bool b => .accepted (if b then 1 else 0)
  | .real x =>
    match x, x.toInt? with
    | .finite _ _, some n =>
      if n.natAbs < powerOfTwo 63 then .accepted n else refuse .oversizedInteger
    | .finite _ _, none => refuse .fractional
    | _, _ => refuse .notFinite
  | .text s => integerOfText s
  | _ => refuse .notInteger

/-- The number that a text writes, in the digits of ASCII. Underscores are accepted in a text
without white space around it. -/
def numberOfText? (s : String) : Option Binary64 :=
  let read (cs : List Char) := (Numeral.read? .plain cs).map Binary64.ofNumeral
  (read (Text.strip Text.isSpace s.toList)).or (read (dropUnderscores s.toList))

/-- A binary floating point number, from a number of any kind, a truth value, or a text. -/
def number : Value → Checked Binary64
  | .real x => .accepted x
  | .int n =>
    match Binary64.ofInt? n with
    | some x => .accepted x
    | none => refuse .notNumber
  | .bool b => .accepted (.ofInt (if b then 1 else 0))
  | .text s =>
    match numberOfText? s with
    | some x => .accepted x
    | none => refuse .unreadableNumber
  | _ => refuse .notNumber

/-- The words that stand for a truth value, in small letters. -/
def boolWords : List (String × Bool) :=
  [("0", false), ("f", false), ("n", false), ("no", false), ("off", false), ("false", false),
    ("1", true), ("t", true), ("y", true), ("yes", true), ("on", true), ("true", true)]

/-- The truth value that one of the two integers zero and one stands for. -/
def boolOfInt (n : Int) : Checked Bool :=
  if n = 0 then .accepted false else if n = 1 then .accepted true else refuse .unreadableBool

/-- A truth value, also from zero or one and from a word for it. -/
def boolean : Value → Checked Bool
  | .bool b => .accepted b
  | .int n => if isWord n then boolOfInt n else refuse .notBool
  | .real x =>
    match x.toInt? with
    | some n => if n.natAbs < powerOfTwo 63 then boolOfInt n else refuse .notBool
    | none => refuse .notBool
  | .text s =>
    match Catalog.get? boolWords (Text.asciiLower s) with
    | some b => .accepted b
    | none => refuse .unreadableBool
  | _ => refuse .notBool

/-- A point in time from a number of seconds. -/
def timestampOfNumber : Except Timestamp.Defect Timestamp → Checked Timestamp
  | .ok t => .accepted t
  | .error why => refuse (.unreadableTimestamp why)

/-- A point in time, also from a text or from a number of seconds. -/
def timestamp : Value → Checked Timestamp
  | .timestamp t => .accepted t
  | .text s =>
    match Timestamp.ofText s with
    | .ok t => .accepted t
    -- A date that can be read but lies outside the calendar is a point in time all the same.
    | .error .yearZero => refuse (.unreadableTimestamp .yearZero)
    | .error why => refuse (.unreadableDate why)
  | .int n =>
    if isWord n then timestampOfNumber (Timestamp.ofUnix n)
    else
      match Binary64.ofInt? n with
      | some x => timestampOfNumber (Timestamp.ofUnixReal x)
      | none => refuse .notTimestamp
  | .real x => timestampOfNumber (Timestamp.ofUnixReal x)
  | _ => refuse .notTimestamp

/-- An integer above the bound. -/
def integerAbove (bound : Nat) (v : Value) : Checked Int :=
  (integer v).andThen fun n => if (bound : Int) < n then .accepted n else refuse (.notAbove bound)

/-- An integer of at least the bound. -/
def integerAtLeast (bound : Nat) (v : Value) : Checked Int :=
  (integer v).andThen fun n => if (bound : Int) ≤ n then .accepted n else refuse (.below bound)

/-- A number above the bound. Not a number is not. -/
def numberAbove (bound : Nat) (v : Value) : Checked Binary64 :=
  (number v).andThen fun x =>
    if Binary64.intLt bound x then .accepted x else refuse (.notAbove bound)

/-- A number of at least the bound. Not a number is not. -/
def numberAtLeast (bound : Nat) (v : Value) : Checked Binary64 :=
  (number v).andThen fun x =>
    if Binary64.intLt bound x || x.eqInt bound then .accepted x else refuse (.below bound)

end Fulfilment.Schema
