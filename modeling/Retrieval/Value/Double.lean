/-!
# Double precision

A number in double precision is a mantissa of 53 bits and a power of two, or it is infinite or no
number. All finite numbers are multiples of the smallest positive one, `2 ^ (-1074)`, and magnitudes
are counted in this unit.

What lies between two finite numbers is rounded to the nearer one, and half-way to the one with the
even mantissa. Products and quotients are rounded like this from their exact value. From half-way
above the largest number on, there is no finite number to round to.
-/

namespace Retrieval

/-- A finite magnitude: a mantissa times a power of two, in units of the smallest positive number.
It has one form only. -/
structure Magnitude where
  mantissa : Nat
  exponent : Nat
  mantissa_lt : mantissa < Nat.pow 2 53
  exponent_le : exponent ≤ 2045
  normal : exponent = 0 ∨ Nat.pow 2 52 ≤ mantissa
deriving DecidableEq

/-- A number in double precision. -/
inductive Double where
  | finite (negative : Bool) (magnitude : Magnitude)
  | infinite (negative : Bool)
  | nan
deriving DecidableEq

namespace Magnitude

/-- One, in units. -/
def one : Nat := Nat.pow 2 1074

/-- A magnitude in units. -/
def units (m : Magnitude) : Nat := m.mantissa * Nat.pow 2 m.exponent

def zero : Magnitude := ⟨0, 0, by decide, by decide, .inl rfl⟩

instance : Inhabited Magnitude := ⟨zero⟩

/-! ## Rounding -/

/-- The power of two of a number between two whole numbers of units: that of its last bit. -/
def exponentOf (n : Nat) : Nat := n.log2 - 52

/-- What is left of a number above the power of two has at most 53 bits. -/
theorem div_lt_of_exponentOf (n : Nat) : n / Nat.pow 2 (exponentOf n) < Nat.pow 2 53 := by
  have below : n < Nat.pow 2 (n.log2 + 1) := Nat.lt_log2_self
  have power : Nat.pow 2 (n.log2 + 1) ≤ Nat.pow 2 (exponentOf n + 53) :=
    Nat.pow_le_pow_right (by decide) (by unfold exponentOf; omega)
  have product : Nat.pow 2 (exponentOf n + 53) = Nat.pow 2 (exponentOf n) * Nat.pow 2 53 :=
    Nat.pow_add ..
  exact Nat.div_lt_of_lt_mul (product ▸ Nat.lt_of_lt_of_le below power)

/-- It has exactly 53 bits unless nothing is cut off. -/
theorem le_div_of_exponentOf {n : Nat} (cut : exponentOf n ≠ 0) :
    Nat.pow 2 52 ≤ n / Nat.pow 2 (exponentOf n) := by
  have positive : n ≠ 0 := by
    rintro rfl
    exact cut rfl
  have above : Nat.pow 2 n.log2 ≤ n := Nat.log2_self_le positive
  have whole : 52 + exponentOf n = n.log2 := by
    unfold exponentOf at cut ⊢
    omega
  have product : Nat.pow 2 (52 + exponentOf n) = Nat.pow 2 52 * Nat.pow 2 (exponentOf n) :=
    Nat.pow_add ..
  rw [whole] at product
  exact (Nat.le_div_iff_mul_le (Nat.two_pow_pos _)).2 (product ▸ above)

/-- The magnitude of a mantissa that may have been rounded up to the next power of two. -/
def ofRounded? (mantissa exponent : Nat) (le : mantissa ≤ Nat.pow 2 53)
    (normal : exponent = 0 ∨ Nat.pow 2 52 ≤ mantissa) : Option Magnitude :=
  if carry : mantissa = Nat.pow 2 53 then
    if bound : exponent + 1 ≤ 2045 then
      some ⟨Nat.pow 2 52, exponent + 1, by decide, bound, .inr (Nat.le_refl _)⟩
    else none
  else if bound : exponent ≤ 2045 then
    some ⟨mantissa, exponent, Nat.lt_of_le_of_ne le carry, bound, normal⟩
  else none

/-- The magnitude that is nearest to a quotient of units, unless it is too large. -/
def ofQuotient? (n d : Nat) : Option Magnitude :=
  let exponent := exponentOf (n / d)
  let unit := Nat.pow 2 exponent
  let below := n / d / unit
  let rest := n - below * (unit * d)
  have lt : below < Nat.pow 2 53 := div_lt_of_exponentOf (n / d)
  have normal : exponent = 0 ∨ Nat.pow 2 52 ≤ below :=
    (Nat.eq_zero_or_pos exponent).imp_right fun cut => le_div_of_exponentOf (Nat.ne_of_gt cut)
  if 2 * rest < unit * d ∨ (2 * rest = unit * d ∧ below % 2 = 0) then
    ofRounded? below exponent (Nat.le_of_lt lt) normal
  else ofRounded? (below + 1) exponent lt (normal.imp_right Nat.le_succ_of_le)

/-! ## Arithmetic -/

/-- The magnitude of a whole number. -/
def ofNat? (n : Nat) : Option Magnitude := ofQuotient? (n * one) 1

def mul? (a b : Magnitude) : Option Magnitude := ofQuotient? (a.units * b.units) one

/-- The quotient of a magnitude and one that is not zero. -/
def div? (a b : Magnitude) : Option Magnitude := ofQuotient? (a.units * one) b.units

/-- The largest power of ten that there is. -/
def maxPower : Nat := 308

/-- The product of a magnitude and a power of ten, both in double precision. A power that is too
small for this is divided by in steps, as long as there is anything to divide. -/
def scale? (a : Magnitude) (power : Int) : Option Magnitude :=
  if power.natAbs ≤ maxPower then do
    let ten ← ofNat? (Nat.pow 10 power.natAbs)
    if 0 ≤ power then a.mul? ten else a.div? ten
  else if a.mantissa = 0 then some a
  else if 0 ≤ power then none
  else do
    let step ← a.div? (← ofNat? (Nat.pow 10 maxPower))
    step.scale? (power + maxPower)
termination_by power.natAbs
decreasing_by
  unfold maxPower at *
  omega

/-! ## Decimals -/

/-- The magnitude that is nearest to a number of powers of ten. -/
def ofDecimal? (digits : Nat) (power : Int) : Option Magnitude :=
  ofQuotient? (digits * Nat.pow 10 power.toNat * one) (Nat.pow 10 (-power).toNat)

/-- The power of ten at the first digit of a magnitude that is not zero. -/
def firstPower (m : Magnitude) : Int :=
  -- the smallest magnitude is above the power that is added here and taken away again
  (toString (m.units * Nat.pow 10 324 / one)).length - 325

/-- How far a decimal is from a magnitude, given the power of ten of its last digit. -/
def distance (m : Magnitude) (power : Int) (digits : Nat) : Nat :=
  let exact := m.units * Nat.pow 10 (-power).toNat
  let decimal := digits * Nat.pow 10 power.toNat * one
  (exact - decimal) + (decimal - exact)

/-- The decimal with some number of digits that stands for a magnitude: it is read back, and it is
the nearest that is. Of two that are as near, the even one is taken. -/
def decimal? (m : Magnitude) (count : Nat) : Option (Nat × Int) :=
  let power := m.firstPower + 1 - count
  let below := m.units * Nat.pow 10 (-power).toNat / (Nat.pow 10 power.toNat * one)
  let near := m.distance power
  let isRead := fun digits => ofDecimal? digits power = some m
  if isRead below ∧ (isRead (below + 1) → near below < near (below + 1) ∨
      (near below = near (below + 1) ∧ below % 2 = 0)) then some (below, power)
  else if isRead (below + 1) then some (below + 1, power)
  else none

/-- The shortest decimal that stands for a magnitude that is not zero; seventeen digits are enough
for every one. A single digit may be rounded up to ten, which has another single digit. -/
def shortest (m : Magnitude) : Nat × Int :=
  match (List.range 17).findSome? fun count => m.decimal? (count + 1) with
  | some (10, power) => (1, power + 1)
  | some decimal => decimal
  | none => (0, 0)

end Magnitude

end Retrieval
