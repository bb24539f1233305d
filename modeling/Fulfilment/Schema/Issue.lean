import Fulfilment.Text.Quoted
import Fulfilment.Time.Timestamp

/-!
# Issues of a document

What is wrong with a document that does not have the form it should have. An issue names the place
in the document, as the keys and list positions that lead there, and the defect found at it.

## Main definitions

* `Schema.Defect` - what can be wrong with a value
* `Schema.Issue` - a defect at a place
* `Schema.Defect.code`, `Schema.Defect.message` - the defect as a code word and as a sentence
-/

namespace Fulfilment.Schema

/-- A step from a value to one that it holds. -/
inductive Segment where
  /-- To a member of an object. -/
  | key (name : String)
  /-- To an item of a list. -/
  | index (i : Nat)
deriving DecidableEq, Repr

/-- What can be wrong with a value. -/
inductive Defect where
  /-- A member that has to be there is not. -/
  | missing
  /-- The value is not a text. -/
  | notText
  /-- The text is empty. -/
  | emptyText
  /-- The value is not a list. -/
  | notList
  /-- The value is not an object. -/
  | notObject
  /-- The value is not an object that could be a `name`. -/
  | notModel (name : String)
  /-- The value is not one of the members of an enumeration. -/
  | notMember (choices : List String)
  /-- The value is not one of a few words. -/
  | notChoice (choices : List String)
  /-- The value is not an integer. -/
  | notInteger
  /-- The text does not write an integer. -/
  | unreadableInteger
  /-- The integer is too large to be taken from its text or number. -/
  | oversizedInteger
  /-- The number is not whole. -/
  | fractional
  /-- The number is infinite or not a number. -/
  | notFinite
  /-- The value is not a number. -/
  | notNumber
  /-- The text does not write a number. -/
  | unreadableNumber
  /-- The value is not a truth value. -/
  | notBool
  /-- The value does not stand for a truth value. -/
  | unreadableBool
  /-- The number is not above the bound. -/
  | notAbove (bound : Nat)
  /-- The number is below the bound. -/
  | below (bound : Nat)
  /-- The value is not a point in time. -/
  | notTimestamp
  /-- The number is not that of a point in time. -/
  | unreadableTimestamp (why : Timestamp.Defect)
  /-- The text writes neither a point in time nor a date. -/
  | unreadableDate (why : Timestamp.Defect)
deriving DecidableEq, Repr

/-- The choices between quotation marks, separated by commas and a final "or". -/
def listChoices : List String → String
  | [] => ""
  | [a] => Text.quote a
  | [a, b] => Text.quote a ++ " or " ++ Text.quote b
  | a :: b :: rest => Text.quote a ++ ", " ++ listChoices (b :: rest)

/-- The code word of a defect. -/
def Defect.code : Defect → String
  | .missing => "missing"
  | .notText => "string_type"
  | .emptyText => "string_too_short"
  | .notList => "list_type"
  | .notObject => "dict_type"
  | .notModel _ => "model_type"
  | .notMember _ => "enum"
  | .notChoice _ => "literal_error"
  | .notInteger => "int_type"
  | .unreadableInteger => "int_parsing"
  | .oversizedInteger => "int_parsing_size"
  | .fractional => "int_from_float"
  | .notFinite => "finite_number"
  | .notNumber => "float_type"
  | .unreadableNumber => "float_parsing"
  | .notBool => "bool_type"
  | .unreadableBool => "bool_parsing"
  | .notAbove _ => "greater_than"
  | .below _ => "greater_than_equal"
  | .notTimestamp => "datetime_type"
  | .unreadableTimestamp _ => "datetime_parsing"
  | .unreadableDate _ => "datetime_from_date_parsing"

/-- The sentence that says what a value should have been. -/
def Defect.message : Defect → String
  | .missing => "Field required"
  | .notText => "Input should be a valid string"
  | .emptyText => "String should have at least 1 character"
  | .notList => "Input should be a valid list"
  | .notObject => "Input should be a valid dictionary"
  | .notModel name => "Input should be a valid dictionary or instance of " ++ name
  | .notMember choices | .notChoice choices => "Input should be " ++ listChoices choices
  | .notInteger => "Input should be a valid integer"
  | .unreadableInteger =>
    "Input should be a valid integer, unable to parse string as an integer"
  | .oversizedInteger => "Unable to parse input string as an integer, exceeded maximum size"
  | .fractional => "Input should be a valid integer, got a number with a fractional part"
  | .notFinite => "Input should be a finite number"
  | .notNumber => "Input should be a valid number"
  | .unreadableNumber => "Input should be a valid number, unable to parse string as a number"
  | .notBool => "Input should be a valid boolean"
  | .unreadableBool => "Input should be a valid boolean, unable to interpret input"
  | .notAbove bound => "Input should be greater than " ++ toString bound
  | .below bound => "Input should be greater than or equal to " ++ toString bound
  | .notTimestamp => "Input should be a valid datetime"
  | .unreadableTimestamp why => "Input should be a valid datetime, " ++ why.message
  | .unreadableDate why => "Input should be a valid datetime or date, " ++ why.message

/-- A defect and the place where it was found. -/
structure Issue where
  /-- The steps from the whole document to the value. -/
  place : List Segment
  /-- What is wrong with the value. -/
  defect : Defect
deriving DecidableEq, Repr

end Fulfilment.Schema
