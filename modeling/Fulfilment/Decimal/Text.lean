import Fulfilment.Decimal.Basic
import Fulfilment.Number.Numeral

/-!
# Decimal numbers as text

Reading and writing decimal numbers, and their exchange with binary numbers. Reading keeps every
digit. Underscores are ignored wherever they stand, and digits of any script count. Writing is
positional unless the exponent is positive or more than six zeros would follow the point.

## Main definitions

* `Decimal.ofText` - the number that a text writes
* `Decimal.text` - the text of a number
* `Decimal.toBinary64?`, `Decimal.ofHundredths` - exchange with binary numbers
-/

namespace Fulfilment.Decimal

/-- The largest exponent that the first digit of a written number may have. -/
def maxWrittenExponent : Int := 999999999999999999

/-- The smallest exponent that the last digit of a written number may have. -/
def leastWrittenExponent : Int := -1999999999999999997

/-- The characters with each digit replaced by that of ASCII, without underscores and without
blanks at the ends. Characters outside ASCII that are no digits make the text unreadable. -/
def normalize? (cs : List Char) : Option (List Char) :=
  ((Text.trimChars cs).filter (· != '_')).mapM fun c =>
    if c.toNat < 128 then some c
    else (Text.digit? c).map fun d => Char.ofNat (48 + d)

/-- The diagnostic digits after the name of not a number. -/
def payload? (cs : List Char) : Option Nat :=
  match Numeral.Style.plain.digits cs with
  | (ds, []) => some (Text.ofDigits ds)
  | _ => none

/-- Not a number under one of its names, with its diagnostic digits. -/
def nan? (cs : List Char) : Option Decimal :=
  let (negative, cs) := Numeral.sign cs
  let small := cs.map Char.toLower
  if small.take 3 = ['n', 'a', 'n'] then (payload? (cs.drop 3)).map (.nan negative false)
  else if small.take 4 = ['s', 'n', 'a', 'n'] then (payload? (cs.drop 4)).map (.nan negative true)
  else none

/-- A written number with exponents that can be represented. -/
def ofNumeral : Numeral → Except Signal Decimal
  | .nan s => .ok (.nan s false 0)
  | .infinite s => .ok (.infinite s)
  | .finite s c e =>
    let first := if c = 0 then e else Text.digitCount c + e - 1
    if maxWrittenExponent < first ∨ e < leastWrittenExponent then .error .invalidOperation
    else .ok (.finite s c e)

/-- The number that a text writes. -/
def ofText (s : String) : Except Signal Decimal :=
  match normalize? s.toList with
  | none => .error .conversionSyntax
  | some cs =>
    match nan? cs with
    | some x => .ok x
    | none =>
      match Numeral.read? .plain cs with
      | some n => ofNumeral n
      | none => .error .conversionSyntax

/-- The digits of a finite number with its point and exponent. -/
def digitsText (coefficient : Nat) (exponent : Int) : List Char :=
  let ds := Nat.toDigits 10 coefficient
  let point := exponent + ds.length
  if exponent ≤ 0 ∧ -6 < point then
    if exponent = 0 then ds
    else if point ≤ 0 then '0' :: '.' :: (List.replicate (-point).toNat '0' ++ ds)
    else ds.take point.toNat ++ '.' :: ds.drop point.toNat
  else
    let power := point - 1
    let mantissa :=
      match ds with
      | [] => []
      | [d] => [d]
      | d :: ds => d :: '.' :: ds
    mantissa ++ 'E' :: (if power < 0 then '-' else '+') :: Nat.toDigits 10 power.natAbs

/-- The text of a number. -/
def text (x : Decimal) : String :=
  let signed (negative : Bool) (cs : List Char) :=
    String.ofList (if negative then '-' :: cs else cs)
  match x with
  | .finite s c e => signed s (digitsText c e)
  | .infinite s => signed s "Infinity".toList
  | .nan s g p =>
    let name := if g then "sNaN".toList else "NaN".toList
    signed s (name ++ if p = 0 then [] else Nat.toDigits 10 p)

/-- The binary number nearest to a decimal number. A signaling value has none. -/
def toBinary64? : Decimal → Option Binary64
  | .finite s c e => some (.ofScientific s c e)
  | .infinite s => some (.infinite s)
  | .nan _ false _ => some .nan
  | .nan _ true _ => none

/-- A binary number rounded to two decimal places. -/
def ofHundredths : Binary64 → Decimal
  | .finite s u =>
    .finite s (Rounding.halfEven (u * 100) Binary64.unitsOfOne) (-2)
  | .infinite s => .infinite s
  | .nan => .nan false false 0

end Fulfilment.Decimal
