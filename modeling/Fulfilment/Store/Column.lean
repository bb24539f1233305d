import Fulfilment.Order.Product
import Fulfilment.Order.Record
import Fulfilment.Store.Figure

/-!
# Columns

What the columns of a table hold for the values that are written into them. Some values have no form
in a column; of those that have one, some cannot be handed to the table; and a column that has to be
filled refuses null. These are found out in this order.

## Main definitions

* `Column.text`, `Column.integer`, `Column.amount`, `Column.flag`, `Column.time` - what a column of
  each kind holds, where null is `none`
* `Column.present` - the content of a column that has to be filled
* `Column.key` - the text by which a row is looked up
* `Column.limit` - a limit for the number of rows

## Main results

* `Column.text_text`, `Column.integer_count`, `Column.flag_bool`, `Column.time_timestamp` - proper
  values are held as they are
-/

namespace Fulfilment.Column

/-- The failure of a value that has no form in a column. -/
def noForm : Failure := .unstorable "StatementError"

/-- The failure of a value that cannot be handed to a table. -/
def notHandedOver : Failure := .unstorable "ProgrammingError"

/-- The failure of a value that does not tell which row is meant. -/
def notKey : Failure := .unstorable "InvalidRequestError"

/-- The failure of null in a column that has to be filled. -/
def empty : Failure := .unstorable "IntegrityError"

/-- The content of a column that has to be filled. -/
def present {α : Type} : Option α → Except Failure α
  | some a => .ok a
  | none => .error empty

/-! ### Integers -/

/-- An integer as it is handed to a table. -/
def boundInt (n : Int) : Except Failure Int :=
  if isWord n then .ok n else .error .integerTooLargeForColumn

/-- The quantity that a column holds for a number: an integer where nothing is lost. The smallest
and the largest integer of a column are not made from numbers. -/
def quantityOfReal (x : Binary64) : Quantity :=
  match x.toInt? with
  | some n => if isWord (n - 1) && isWord (n + 1) then .count n else .other (.real x)
  | none => .other (.real x)

/-- The blanks that may surround a number in a column. -/
def isBlank (c : Char) : Bool := c = ' ' || (9 ≤ c.toNat && c.toNat ≤ 13)

/-- The quantity that a column holds for a text: the number that the text writes, if it writes one,
and otherwise the text. Digits alone are read exactly, and all other numbers as figures. -/
def quantityOfText (s : String) : Quantity :=
  let cs := Text.strip isBlank s.toList
  match Numeral.read? .plain cs with
  | some (.finite negative digits power) =>
    let n : Int := if negative then -digits else digits
    if (Numeral.sign cs).2.all Text.isAsciiDigit && isWord n then .count n
    else quantityOfReal (Figure.read negative digits power)
  | _ => .other (.text s)

/-- What a column of integers holds. Texts that write numbers are held as numbers, and truth values
and numbers without a fraction as integers. -/
def integer : Quantity → Except Failure (Option Quantity)
  | .count n => (boundInt n).map fun n => some (.count n)
  | .other .null => .ok none
  | .other (.bool b) => .ok (some (.count (if b then 1 else 0)))
  | .other (.real x) => .ok (if x = .nan then none else some (quantityOfReal x))
  | .other (.text s) => .ok (some (quantityOfText s))
  | .other (.int n) => (boundInt n).map fun n => some (.count n)
  | .other _ => .error notHandedOver

/-! ### Texts -/

/-- What a column of texts holds. Numbers are held as texts. -/
def text : Value → Except Failure (Option String)
  | .null => .ok none
  | .text s => .ok (some s)
  | .bool b => .ok (some (if b then "1" else "0"))
  | .int n => (boundInt n).map fun n => some (Value.intText n)
  | .real x => .ok (Figure.text x)
  | _ => .error notHandedOver

/-- The text by which the row of an identifier is looked up, where null is `none`. A list of one
item, or an object of one member under the name of the column, stands for the item. -/
def key : Value → Except Failure (Option String)
  | .list [v] => item v
  | .object [(.text "id", v)] => item v
  | .list _ | .object _ => .error notKey
  | v => text v
where
  /-- The text of the only item of an identifier. -/
  item : Value → Except Failure (Option String)
    | .list _ => .error (.unhashable "list")
    | .object _ => .error (.unhashable "dict")
    | v => text v

/-! ### Amounts, truth values and times -/

/-- What a column of amounts holds: a binary number, where zero has no sign, and null for what is
not a number. -/
def amount (x : Decimal) : Except Failure (Option Binary64) :=
  match x.toBinary64? with
  | none => .error noForm
  | some .nan => .ok none
  | some x => .ok (some (if x.isZero then .zero else x))

/-- What a column of amounts holds for a total. -/
def total : Total → Except Failure (Option Binary64)
  | .decimal d => amount d
  | .other _ => .error noForm

/-- What a column of truth values holds. The numbers zero and one are truth values. -/
def flag (v : Value) : Except Failure (Option Bool) :=
  match v with
  | .null => .ok none
  | v =>
    if v.same (.bool true) then .ok (some true)
    else if v.same (.bool false) then .ok (some false)
    else .error noForm

/-- What a column of times holds, which is a time without its offset. -/
def time : Value → Except Failure (Option Timestamp)
  | .null => .ok none
  | .timestamp t => .ok (some t.withoutOffset)
  | _ => .error noForm

/-! ### Limits -/

/-- The integer that a text writes, in the digits of any script, of which there may be 4300. -/
def integerOfText (s : String) : Except Failure Int :=
  let (negative, cs) := Numeral.sign (Text.strip Text.isSpace s.toList)
  let unreadable : Failure := .notIntegerText (Value.text s).literal
  match Numeral.Style.international.digits cs with
  | ([], _) => .error unreadable
  | (digits, rest) =>
    -- An underscore at the end of the digits is found before they are counted.
    if rest.head? = some '_' then .error unreadable
    else if 4300 < digits.length then .error (.tooManyDigits digits.length)
    else if !rest.isEmpty then .error unreadable
    else
      let n : Int := Text.ofDigits digits
      .ok (if negative then -n else n)

/-- The integer towards zero from a number. -/
def truncated? : Binary64 → Option Int
  | .finite s u => some (Binary64.signed s (u / Binary64.unitsOfOne))
  | _ => none

/-- A value as an integer, whose fraction is dropped. -/
def wholeNumber (v : Value) : Except Failure Int :=
  match v with
  | .int n => .ok n
  | .bool b => .ok (if b then 1 else 0)
  | .real x =>
    match truncated? x with
    | some n => .ok n
    | none => .error (.notFinite (x = .nan))
  | .text s => integerOfText s
  | v => .error (.notIntegerKind v.kindName)

/-- A limit for the number of rows, which has to fit into a column. Null and a negative number are
no limit. -/
def limit (v : Value) : Except Failure (Option Nat) :=
  match v with
  | .null => .ok none
  | v => do
    let n ← boundInt (← wholeNumber v)
    return if n < 0 then none else some n.toNat

@[simp] theorem present_some {α : Type} (a : α) : present (some a) = .ok a := rfl

@[simp] theorem text_text (s : String) : text (.text s) = .ok (some s) := rfl

@[simp] theorem text_null : text .null = .ok none := rfl

@[simp] theorem key_text (s : String) : key (.text s) = .ok (some s) := rfl

theorem integer_count {n : Int} (h : isWord n = true) :
    integer (.count n) = .ok (some (.count n)) := by
  simp [integer, boundInt, h, Except.map]

@[simp] theorem flag_bool (b : Bool) : flag (.bool b) = .ok (some b) := by
  cases b <;> rfl

@[simp] theorem flag_null : flag .null = .ok none := rfl

@[simp] theorem time_timestamp (t : Timestamp) :
    time (.timestamp t) = .ok (some t.withoutOffset) := rfl

@[simp] theorem time_null : time .null = .ok none := rfl

end Fulfilment.Column
