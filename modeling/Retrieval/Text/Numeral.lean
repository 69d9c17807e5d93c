import Retrieval.Text.Blank

/-!
# Decimal numerals

Counts arrive as text: ASCII digits, leading zeros allowed, one plus sign allowed in front. A
numeral is read into a 64-bit count and refused when it does not fit.
-/

namespace Retrieval.Text

/-- The value of a decimal digit. -/
def digit? (c : Char) : Option Nat :=
  if '0' ≤ c ∧ c ≤ '9' then some (c.toNat - '0'.toNat) else none

/-- Reads digits behind a number already read. -/
def readDigits? (value : Nat) : List Char → Option Nat
  | [] => some value
  | c :: rest => do readDigits? (10 * value + (← digit? c)) rest

/-- The number written by at least one digit and nothing else. -/
def readNat? : List Char → Option Nat
  | [] => none
  | c :: rest => readDigits? 0 (c :: rest)

/-- The 64-bit count written by a numeral. -/
def readCount? (text : List Char) : Option UInt64 :=
  ((readNat? (match text with
    | '+' :: digits => digits
    | _ => text)).filter (· < UInt64.size)).map UInt64.ofNat

/-- The positive 64-bit count written by a numeral, blanks around it allowed. -/
def positive? (text : String) : Option UInt64 :=
  (readCount? (trimBlanks text.toList)).filter (0 < ·)

end Retrieval.Text
