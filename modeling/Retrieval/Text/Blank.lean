import Retrieval.Text.Ranges

/-!
# Blank characters

A character is blank when it has the White_Space property: 25 characters, of which the controls
from tab to carriage return and the space are the ASCII ones. Trimming takes blanks off both ends.
-/

namespace Retrieval.Text

/-- The first and last code points of each run of blank characters. -/
def blankRanges : List (Nat × Nat) :=
  [(0x09, 0x0D), (0x20, 0x20), (0x85, 0x85), (0xA0, 0xA0), (0x1680, 0x1680), (0x2000, 0x200A),
    (0x2028, 0x2029), (0x202F, 0x202F), (0x205F, 0x205F), (0x3000, 0x3000)]

/-- Whether a character is blank. -/
def isBlank (c : Char) : Bool := inRanges blankRanges c

/-- The text without the blanks at either end. -/
def trimBlanks (text : List Char) : List Char :=
  ((text.dropWhile isBlank).reverse.dropWhile isBlank).reverse

/-- The text without the blanks at either end. -/
def trim (text : String) : String := String.ofList (trimBlanks text.toList)

end Retrieval.Text
