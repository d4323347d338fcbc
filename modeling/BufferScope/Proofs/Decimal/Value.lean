/-
The rational number that a double-precision number stands for.
-/
import Mathlib.Algebra.Order.Field.Rat
import Mathlib.Tactic
import BufferScope.Decimal.Binary

namespace BufferScope.Decimal

/-- The value of a finite number. A NaN and the infinities have none. -/
def Parts.toRat? : Parts → Option ℚ
  | .finite negative mantissa exponent => some ((if negative then -1 else 1) * mantissa * 2 ^ exponent)
  | _ => none

/-- The exact value of a double; zero for a NaN or an infinity. -/
def exactValue (x : Float) : ℚ := (Parts.ofFloat x).toRat?.getD 0

end BufferScope.Decimal
