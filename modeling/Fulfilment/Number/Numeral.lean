import Fulfilment.Text.Basic
import Fulfilment.Number.Shortest

/-!
# Written numbers

A number as it is written: a sign, digits with an optional point, and an optional power of ten; or
one of the names of the infinities and of not a number. The same reader serves the binary and the
decimal numbers; what counts as a digit, and whether digits may be grouped by underscores, differs
between the formats and is given by a `Numeral.Style`.

## Main definitions

* `Numeral` - what a written number says
* `Numeral.read?` - reads a whole text
* `Binary64.ofText?` - the number that a text writes, in the digits of any script
* `Binary64.text` - the shortest text that is read back as the number
-/

namespace Fulfilment

/-- What a written number says. -/
inductive Numeral where
  /-- The name of not a number. -/
  | nan (negative : Bool)
  /-- The name of infinity. -/
  | infinite (negative : Bool)
  /-- The digits and the power of ten that they count. -/
  | finite (negative : Bool) (digits : Nat) (exponent : Int)
deriving DecidableEq, Repr

namespace Numeral

/-- How digits are written. -/
structure Style where
  /-- The value of a digit. -/
  digit? : Char → Option Nat
  /-- Whether one underscore may stand between two digits. -/
  grouped : Bool

/-- The digits of ASCII, without grouping. -/
def Style.plain : Style :=
  { digit? := fun c => if Text.isAsciiDigit c then some (c.toNat - 48) else none
    grouped := false }

/-- The digits of any script, which may be grouped. -/
def Style.international : Style := { digit? := Text.digit?, grouped := true }

/-- The values of the digits at the front, and what follows them. -/
def Style.digits (style : Style) : List Char → List Nat × List Char
  | [] => ([], [])
  | c :: cs =>
    match style.digit? c with
    | none => ([], c :: cs)
    | some d =>
      let rest :=
        match cs with
        | '_' :: c' :: cs' =>
          -- An underscore groups digits only where a digit follows it.
          if style.grouped ∧ (style.digit? c').isSome then style.digits (c' :: cs')
          else ([], '_' :: c' :: cs')
        | cs => style.digits cs
      (d :: rest.1, rest.2)

/-- A sign at the front, and what follows it. -/
def sign : List Char → Bool × List Char
  | '-' :: cs => (true, cs)
  | '+' :: cs => (false, cs)
  | cs => (false, cs)

/-- The power of ten that makes up the rest of a written number. -/
def Style.power? (style : Style) : List Char → Option Int
  | [] => some 0
  | c :: cs =>
    if c = 'e' ∨ c = 'E' then
      let (negative, cs) := sign cs
      match style.digits cs with
      | (d :: ds, []) =>
        let n : Int := Text.ofDigits (d :: ds)
        some (if negative then -n else n)
      | _ => none
    else none

/-- Digits with an optional point, and an optional power of ten. -/
def Style.unsigned? (style : Style) (negative : Bool) (cs : List Char) : Option Numeral := do
  let (whole, cs) := style.digits cs
  let (fraction, cs) :=
    match cs with
    | '.' :: cs => style.digits cs
    | cs => ([], cs)
  if whole.isEmpty ∧ fraction.isEmpty then none
  let power ← style.power? cs
  return .finite negative (Text.ofDigits (whole ++ fraction)) (power - fraction.length)

/-- Whether the characters spell the word, in small or capital letters of ASCII. -/
def spells (cs : List Char) (word : String) : Bool := cs.map Char.toLower == word.toList

/-- What the characters write as a number, if all of them together do. -/
def read? (style : Style) (cs : List Char) : Option Numeral :=
  let (negative, cs) := sign cs
  if spells cs "inf" || spells cs "infinity" then some (.infinite negative)
  else if spells cs "nan" then some (.nan negative)
  else style.unsigned? negative cs

end Numeral

namespace Binary64

/-- The number nearest to a written number. -/
def ofNumeral : Numeral → Binary64
  | .nan _ => .nan
  | .infinite s => .infinite s
  | .finite s d e => ofScientific s d e

/-- The number that a text writes, apart from white space at its ends. -/
def ofText? (s : String) : Option Binary64 :=
  (Numeral.read? .international (Text.strip Text.isSpace s.toList)).map ofNumeral

/-- The digits of `n` without the zeros at the end, and the number of those zeros. -/
def dropZeros (n : Nat) : List Char × Nat :=
  let ds := (Nat.toDigits 10 n).reverse
  ((ds.dropWhile (· == '0')).reverse, (ds.takeWhile (· == '0')).length)

/-- The digits with a point after the first `point` of them, filled up by zeros. At least one digit
stands on either side of the point. -/
def positional (ds : List Char) (point : Int) : List Char :=
  if point ≤ 0 then '0' :: '.' :: (List.replicate (-point).toNat '0' ++ ds)
  else if (ds.length : Int) ≤ point then
    ds ++ List.replicate (point.toNat - ds.length) '0' ++ ['.', '0']
  else ds.take point.toNat ++ '.' :: ds.drop point.toNat

/-- The digits with a point after the first and a power of ten of two digits or more. -/
def scientific (ds : List Char) (power : Int) : List Char :=
  let mantissa :=
    match ds with
    | [] => []
    | [d] => [d]
    | d :: ds => d :: '.' :: ds
  let size := Nat.toDigits 10 power.natAbs
  mantissa ++ 'e' :: (if power < 0 then '-' else '+') ::
    (if size.length < 2 then '0' :: size else size)

/-- The shortest text that is read back as a positive number of units: positional from `10 ^ -4` up
to `10 ^ 16`, with a power of ten outside. -/
def unitsText (units : Nat) : List Char :=
  let (n, exponent) := Shortest.digits units
  let (ds, zeros) := dropZeros n
  let point := exponent + zeros + ds.length
  if -4 < point ∧ point ≤ 16 then positional ds point else scientific ds (point - 1)

/-- The shortest text that is read back as the number. -/
def text : Binary64 → String
  | .nan => "nan"
  | .infinite s => if s then "-inf" else "inf"
  | .finite s u =>
    let digits := if u = 0 then ['0', '.', '0'] else unitsText u
    String.ofList (if s then '-' :: digits else digits)

end Binary64

end Fulfilment
