import Retrieval.Value.Basic
import Retrieval.Value.Numeral

/-!
# Numbers of JSON text

A whole numeral that fits into 64 bits, with or without a sign, is a whole number. Any other numeral
is a number in double precision, unless it is too large.

This number is not the one that is nearest to the numeral, but a product of two numbers in double
precision: a significand of 64 bits and a power of ten. The digits of the numeral are taken into the
significand as long as they fit. A digit before the point that is not taken counts as a zero, and a
digit behind the point that is not taken counts for nothing.
-/

namespace Retrieval.Numeral

/-- The whole number of a numeral without fraction and exponent, if it fits into 64 bits. A negative
zero is not whole. -/
def int? (numeral : Numeral) : Option Int :=
  match numeral.fraction, numeral.exponent, Text.readNat? numeral.whole with
  | none, none, some n =>
    if numeral.negative then (if 0 < n ∧ n ≤ 0x8000000000000000 then some (-n) else none)
    else if n < UInt64.size then some n
    else none
  | _, _, _ => none

/-! ## Significands -/

/-- A number with more digits behind it, taken as long as it fits into 64 bits, and the digits that
are not taken. -/
def takeDigits (n : Nat) : List Char → Nat × List Char
  | [] => (n, [])
  | c :: rest =>
    let longer := 10 * n + (Text.digit? c).getD 0
    if longer < UInt64.size then takeDigits longer rest else (n, c :: rest)

/-- The digits of a numeral that fit into 64 bits, and the power of ten by which they are scaled. -/
def significand (numeral : Numeral) : Nat × Int :=
  let (whole, zeros) := takeDigits 0 numeral.whole
  let fraction := numeral.fraction.getD []
  let (digits, ignored) := takeDigits whole fraction
  (digits, numeral.exponent.getD 0 + zeros.length - (fraction.length - ignored.length))

/-! ## Values -/

/-- The product of the significand and its power of ten, if there is one in double precision. -/
def product? (numeral : Numeral) : Option Magnitude := do
  let (digits, power) := numeral.significand
  (← Magnitude.ofNat? digits).scale? power

/-- The value of a numeral. -/
def value? (written : List Char) : Option Value := do
  let numeral ← parse? written
  match numeral.int? with
  | some n => return .int n
  | none => return .real (.finite numeral.negative (← numeral.product?))

end Retrieval.Numeral
