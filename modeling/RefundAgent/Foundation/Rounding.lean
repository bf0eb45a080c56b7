import Mathlib.Data.Int.Log
import Mathlib.Data.Rat.Floor

/-!
# Rounding

Rounding to integers and to numbers of 53 binary digits.  Where two of them are
equally near, the even one is taken.
-/

namespace RefundAgent
namespace Foundation

def roundHalfEven (q : Rat) : Int :=
  if q - q.floor < 1 / 2 then q.floor
  else if 1 / 2 < q - q.floor then q.floor + 1
  else q.floor + q.floor % 2

theorem roundHalfEven_intCast (n : Int) : roundHalfEven n = n := by
  unfold roundHalfEven
  rw [Rat.floor_intCast, sub_self]
  exact if_pos (by norm_num)

/-- The place of the last of 53 binary digits. -/
def lastPlace (q : Rat) : Rat :=
  2 ^ (Int.log 2 |q| - 52)

/-- The nearest number of 53 binary digits; exponents have no bounds here. -/
def binary64 (q : Rat) : Rat :=
  roundHalfEven (q / lastPlace q) * lastPlace q

theorem binary64_zero : binary64 0 = 0 := by
  have hzero : roundHalfEven 0 = 0 := roundHalfEven_intCast 0
  unfold binary64
  rw [zero_div, hzero, Int.cast_zero, zero_mul]

end Foundation
end RefundAgent
