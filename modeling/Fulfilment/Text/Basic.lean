import Fulfilment.Text.Classes

/-!
# Operations on texts

Trimming, splitting, searching and padding. The operations are defined on lists of characters,
where they can be reasoned about by induction, and lifted to strings.

## Main definitions

* `Text.trim` - a text without the blanks at its ends
* `Text.split` - the pieces between the occurrences of a separator
* `Text.contains` - whether one text occurs inside another
* `Text.decimal`, `Text.hex` - a number written in a fixed number of digits

## Main results

* `Text.pieces_ne_nil` - splitting yields at least one piece
* `Text.join_pieces` - joining the pieces with the separator gives the text back
-/

namespace Fulfilment.Text

/-- The characters without those at either end that belong to a class. -/
def strip (p : Char → Bool) (cs : List Char) : List Char :=
  ((cs.dropWhile p).reverse.dropWhile p).reverse

/-- The characters without the blanks at either end. -/
def trimChars (cs : List Char) : List Char := strip isBlank cs

/-- The text without the blanks at either end. -/
def trim (s : String) : String := String.ofList (trimChars s.toList)

/-- Whether the text holds nothing but blanks. -/
def isBlankText (s : String) : Bool := s.toList.all isBlank

/-- The pieces between the occurrences of `sep`. -/
def pieces (sep : Char) : List Char → List (List Char)
  | [] => [[]]
  | c :: cs =>
    if c = sep then [] :: pieces sep cs
    else
      match pieces sep cs with
      | [] => [[c]]
      | p :: ps => (c :: p) :: ps

/-- The pieces joined with the separator `sep`. -/
def joinPieces (sep : Char) : List (List Char) → List Char
  | [] => []
  | [p] => p
  | p :: q :: ps => p ++ sep :: joinPieces sep (q :: ps)

theorem pieces_ne_nil (sep : Char) (cs : List Char) : pieces sep cs ≠ [] := by
  cases cs with
  | nil => simp [pieces]
  | cons c cs =>
    simp only [pieces]
    split
    · simp
    · split <;> simp

theorem join_pieces (sep : Char) (cs : List Char) : joinPieces sep (pieces sep cs) = cs := by
  induction cs with
  | nil => rfl
  | cons c cs ih =>
    simp only [pieces]
    split
    next h =>
      cases hp : pieces sep cs with
      | nil => exact absurd hp (pieces_ne_nil sep cs)
      | cons p ps => simp [joinPieces, ← hp, ih, h]
    next h =>
      cases hp : pieces sep cs with
      | nil => exact absurd hp (pieces_ne_nil sep cs)
      | cons p ps =>
        rw [hp] at ih
        cases ps with
        | nil => simpa [joinPieces] using ih
        | cons q ps => simpa [joinPieces] using ih

/-- The pieces of a text between the occurrences of `sep`. -/
def split (sep : Char) (s : String) : List String := (pieces sep s.toList).map String.ofList

/-- Whether `needle` occurs in the characters `cs`. -/
def occurs (needle : List Char) : List Char → Bool
  | [] => needle.isEmpty
  | c :: cs => needle.isPrefixOf (c :: cs) || occurs needle cs

/-- Whether `needle` occurs in `s`. -/
def contains (s needle : String) : Bool := occurs needle.toList s.toList

/-- Whether the text `s` begins with the text `start`. -/
def beginsWith (s start : String) : Bool := start.toList.isPrefixOf s.toList

/-- The first `n` characters of a text. -/
def truncate (n : Nat) (s : String) : String := String.ofList (s.toList.take n)

/-- The digit `n` as a character, with the letters `a` to `f` after nine. -/
def digitChar (n : Nat) : Char := Char.ofNat (if n < 10 then 48 + n else 87 + n)

/-- The last `width` digits of `n` in base `base`, the most significant first. -/
def fixedDigits (base : Nat) : Nat → Nat → List Char
  | 0, _ => []
  | width + 1, n => fixedDigits base width (n / base) ++ [digitChar (n % base)]

/-- The last `width` decimal digits of `n`. -/
def decimal (width n : Nat) : String := String.ofList (fixedDigits 10 width n)

/-- The last `width` hexadecimal digits of `n`. -/
def hex (width n : Nat) : String := String.ofList (fixedDigits 16 width n)

/-- The number that a list of digit values writes in base ten. -/
def ofDigits (ds : List Nat) : Nat := ds.foldl (fun n d => 10 * n + d) 0

/-- The number of decimal digits of `n`, which is one for zero. -/
def digitCount (n : Nat) : Nat := (Nat.toDigits 10 n).length

/-- Whether `c` is a decimal digit of ASCII. -/
def isAsciiDigit (c : Char) : Bool := 48 ≤ c.toNat && c.toNat ≤ 57

/-- The characters with the capital letters of ASCII replaced by small ones. -/
def asciiLower (s : String) : String := s.map Char.toLower

theorem length_fixedDigits (base width n : Nat) : (fixedDigits base width n).length = width := by
  induction width generalizing n with
  | zero => rfl
  | succ width ih => simp [fixedDigits, ih]

end Fulfilment.Text
