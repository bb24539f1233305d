import Fulfilment.Text.Basic

/-!
# Quoted texts

The quoted form of a text: on one line, between quotation marks, with every character visible.
The mark is the apostrophe, unless the text holds apostrophes and no double quotation mark. The
mark, the backslash, line breaks and tabulators are escaped by a backslash, and a character that
does not print is written by its code point.

## Main definitions

* `Text.quote` - the quoted form of a text
-/

namespace Fulfilment.Text

/-- The apostrophe. -/
def apostrophe : Char := '\x27'

/-- The double quotation mark. -/
def doubleQuote : Char := '\x22'

/-- The backslash. -/
def backslash : Char := '\x5c'

/-- The mark that encloses the quoted form of `cs`. -/
def quoteMark (cs : List Char) : Char :=
  if cs.contains apostrophe && !cs.contains doubleQuote then doubleQuote else apostrophe

/-- The code point of `c` after a backslash, in two, four or eight hexadecimal digits. -/
def codePointEscape (c : Char) : List Char :=
  let n := c.toNat
  if n < 0x100 then backslash :: 'x' :: fixedDigits 16 2 n
  else if n < 0x10000 then backslash :: 'u' :: fixedDigits 16 4 n
  else backslash :: 'U' :: fixedDigits 16 8 n

/-- What is written for `c` in a text enclosed by `mark`. -/
def escapeChar (mark c : Char) : List Char :=
  if c = mark ∨ c = backslash then [backslash, c]
  else if c = '\n' then [backslash, 'n']
  else if c = '\r' then [backslash, 'r']
  else if c = '\t' then [backslash, 't']
  else if isPrinting c then [c]
  else codePointEscape c

/-- The quoted form of a list of characters. -/
def quoteChars (cs : List Char) : List Char :=
  let mark := quoteMark cs
  mark :: cs.flatMap (escapeChar mark) ++ [mark]

/-- The quoted form of a text. -/
def quote (s : String) : String := String.ofList (quoteChars s.toList)

end Fulfilment.Text
