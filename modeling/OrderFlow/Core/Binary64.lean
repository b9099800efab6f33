import Mathlib.Data.Int.Log
import Mathlib.Data.Rat.Floor

/-!
# Rounding to binary64

Rationals rounded to nearest, ties to even, as a decimal literal is when it is
read.  The sign of a zero is not kept.
-/

namespace OrderFlow

inductive Binary64 where
  | finite (value : ℚ)
  | infinite (negative : Bool)
  | nan
  deriving DecidableEq

namespace Binary64

/-! ## To an integer -/

def roundHalfEven (value : ℚ) : ℤ :=
  let excess := value - ⌊value⌋
  if excess < 1 / 2 ∨ excess = 1 / 2 ∧ Even ⌊value⌋ then ⌊value⌋
  else ⌊value⌋ + 1

/-! ## To a float -/

/-- The exponent of the last place of the floats around a positive value. -/
def ulpExponent (value : ℚ) : ℤ := max (Int.log 2 value - 52) (-1074)

/-- The multiple of the last place next to a positive value. -/
def roundMagnitude (value : ℚ) : ℚ :=
  roundHalfEven (value / 2 ^ ulpExponent value) * 2 ^ ulpExponent value

/-- The last place of the largest floats. -/
def largestUlp : ℚ := 2 ^ (971 : ℤ)

def round (value : ℚ) : Binary64 :=
  if 2 ^ 53 * largestUlp ≤ roundMagnitude |value| then
    .infinite (decide (value < 0))
  else
    .finite (if value < 0 then -roundMagnitude |value|
      else roundMagnitude |value|)

end Binary64

end OrderFlow
