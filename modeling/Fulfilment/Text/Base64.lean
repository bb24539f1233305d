/-!
# Base 64

Bytes written with the 64 letters of RFC 4648: three bytes become four letters, and a shorter last
group is filled up with the padding sign.

## Main definitions

* `Text.base64` - the base 64 form of the UTF-8 bytes of a text
-/

namespace Fulfilment.Text

/-- The letter of a value below 64. -/
def base64Letter (n : Nat) : Char :=
  Char.ofNat <|
    if n < 26 then 65 + n
    else if n < 52 then 71 + n
    else if n < 62 then n - 4
    else if n = 62 then 43
    else 47

/-- The letters of a list of bytes, in groups of three. -/
def base64Letters : List Nat → List Char
  | [] => []
  | [a] => [base64Letter (a / 4), base64Letter (a % 4 * 16), '=', '=']
  | [a, b] =>
    [base64Letter (a / 4), base64Letter (a % 4 * 16 + b / 16), base64Letter (b % 16 * 4), '=']
  | a :: b :: c :: rest =>
    base64Letter (a / 4) :: base64Letter (a % 4 * 16 + b / 16) ::
      base64Letter (b % 16 * 4 + c / 64) :: base64Letter (c % 64) :: base64Letters rest

/-- The base 64 form of the UTF-8 bytes of a text. -/
def base64 (s : String) : String :=
  String.ofList (base64Letters (s.toUTF8.toList.map UInt8.toNat))

end Fulfilment.Text
