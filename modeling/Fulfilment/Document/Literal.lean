import Fulfilment.Document.Value
import Fulfilment.Number.Numeral
import Fulfilment.Text.Quoted

/-!
# Values as text

The literal form of a value shows its kind: texts are quoted, lists stand in brackets and objects
in braces, and the three constants have names. The plain form differs for a text only, which it
gives as it is.

## Main definitions

* `Value.literal` - the literal form
* `Value.plain` - the plain form
-/

namespace Fulfilment.Value

/-- The decimal digits of an integer. -/
def intText (n : Int) : String :=
  if n < 0 then "-" ++ toString n.natAbs else toString n.natAbs

/-- The literal form of a value that holds no other values. -/
def leafLiteral : Value → String
  | .bool b => if b then "True" else "False"
  | .int n => intText n
  | .real x => x.text
  | .text s => Text.quote s
  | .timestamp t => t.iso
  | .handle name => "<" ++ name ++ ">"
  | _ => "None"

/-- The literal form of a name. -/
def nameLiteral (n : Name) : String := leafLiteral (ofName n)

mutual

/-- The literal form of a value. -/
def literal : Value → String
  | .list xs => "[" ++ itemLiterals xs ++ "]"
  | .object fs => "\x7b" ++ fieldLiterals fs ++ "\x7d"
  | v => leafLiteral v

/-- The literal forms of the items of a list. -/
def itemLiterals : List Value → String
  | [] => ""
  | [x] => literal x
  | x :: y :: rest => literal x ++ ", " ++ itemLiterals (y :: rest)

/-- The literal forms of the members of an object. -/
def fieldLiterals : List (Name × Value) → String
  | [] => ""
  | [(k, v)] => nameLiteral k ++ ": " ++ literal v
  | (k, v) :: e :: rest =>
    nameLiteral k ++ ": " ++ literal v ++ ", " ++ fieldLiterals (e :: rest)

end

/-- The plain form of a value. -/
def plain : Value → String
  | .text s => s
  | v => literal v

end Fulfilment.Value
