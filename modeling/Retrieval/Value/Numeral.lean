import Retrieval.Text.Numeral
import Retrieval.Text.Split
import Retrieval.Value.Double

/-!
# Numerals

A numeral has a sign, whole digits, and perhaps a fraction and an exponent. There is a number in
double precision that is nearest to it, or it is too large.
-/

namespace Retrieval

/-- The parts of a numeral. -/
structure Numeral where
  negative : Bool
  whole : List Char
  fraction : Option (List Char)
  exponent : Option Int

namespace Numeral

/-- The parts of a text at an exponent mark: what is before it, and the exponent. -/
def cutExponent? (text : List Char) : Option (List Char × Option Int) :=
  let before := text.takeWhile fun c => c ≠ 'e' && c ≠ 'E'
  match text.drop before.length with
  | [] => some (before, none)
  | _ :: '-' :: digits => (Text.readNat? digits).map fun n => (before, some (-n))
  | _ :: '+' :: digits => (Text.readNat? digits).map fun n => (before, some n)
  | _ :: digits => (Text.readNat? digits).map fun n => (before, some n)

/-- Whether a text is at least one digit and nothing else. -/
def isDigits (text : List Char) : Bool := !text.isEmpty && text.all Char.isDigit

/-- Whether digits are those of a whole number: no leading zero but zero itself. -/
def isWhole (digits : List Char) : Bool :=
  isDigits digits && (digits.head? ≠ some '0' || digits.length = 1)

/-- The parts of a numeral without a sign. -/
def unsigned? (negative : Bool) (text : List Char) : Option Numeral := do
  let (mantissa, exponent) ← cutExponent? text
  let (whole, fraction) := Text.cut '.' mantissa
  if isWhole whole && fraction.all isDigits then some ⟨negative, whole, fraction, exponent⟩
  else none

/-- The parts of a numeral: a minus sign is allowed in front, a plus sign is not. -/
def parse? : List Char → Option Numeral
  | '-' :: text => unsigned? true text
  | text => unsigned? false text

/-- The digits of a numeral without its point. -/
def digits (numeral : Numeral) : List Char := numeral.whole ++ numeral.fraction.getD []

/-- The power of ten by which the digits are scaled. -/
def scale (numeral : Numeral) : Int :=
  numeral.exponent.getD 0 - (numeral.fraction.getD []).length

/-- The magnitude in double precision that is nearest to a numeral, unless it is too large. Where
the first digit stands decides what is so small or so large that the powers of ten are not needed.
-/
def nearest? (numeral : Numeral) : Option Magnitude :=
  let significant := numeral.digits.dropWhile (· = '0')
  let first := significant.length + numeral.scale
  if significant.isEmpty || first < -400 then some .zero
  else if 400 < first then none
  else Magnitude.ofDecimal? ((Text.readNat? significant).getD 0) numeral.scale

end Numeral

end Retrieval
